import EdgeNode.Framework
import EdgeNode.Json.Printer
import EdgeNode.Keys
/-!
# The agent server

A running agent server writes its status, calls those who wait for it to be ready, and, if it is
provisioned and shares its process with the broker, registers itself on the core bus from time to
time.
-/

namespace EdgeNode

/-- An agent server. -/
structure AgentServer where
  /-- Its configuration. -/
  config : ServerConfig
  /-- Whether it shares its process with the broker. -/
  inProcess : Bool := false
  /-- When it was built, in nanoseconds since 1970. -/
  built : Nat := 0
  /-- The callbacks that wait for it to be ready, in the order in which they were registered. -/
  pending : List Callback := []
  /-- The course that is laid down for it, if one is. -/
  course : Option Course := none
deriving DecidableEq, Repr

namespace AgentServer

/-- Builds an agent server. -/
def build (f : Framework) (h : Host) (config : ServerConfig) (inProcess : Bool) :
    Except Error AgentServer :=
  match f with
  | .network => .ok { config, inProcess, built := h.wallClock }
  | .scripted s =>
    match s.instanceFault with
    | some fault => .error (.config fault)
    | none => .ok { config, inProcess, built := h.wallClock, course := some s.course }

/-- Registers a callback.  Where the course is laid down, it is called at once. -/
def register (h : Host) (a : AgentServer) (c : Callback) : AgentServer × Host :=
  match a.course with
  | some _ => (a, h.call [c])
  | none => ({ a with pending := a.pending ++ [c] }, h)

/-- Where the run of an agent server stands. -/
inductive Stage where
  /-- It begins. -/
  | starting
  /-- Its status is written. -/
  | ready
  /-- It only waits to be cancelled. -/
  | idle
  /-- Pausing until the instant of the next registration. -/
  | pausing (wake : Nat)
  /-- On a course that began at an instant. -/
  | course (start : Nat)
deriving DecidableEq, Repr

/-- The status document.  Its members stand in the order of a report. -/
def statusDocument (a : AgentServer) : Json :=
  .obj
    [("identity", a.config.identity),
     ("mode", a.config.mode.name),
     ("embedded_broker", a.inProcess),
     ("ready", true),
     ("start_time", Calendar.timestamp a.built)]

/-- Writes the status document. -/
def writeStatus (a : AgentServer) (f : Files) (path : String) : Except Error Unit × Files :=
  match f.createParent path with
  | (.error e, f) => (.error e, f)
  | (.ok (), f) =>
    match f.writeKeyFile path (Bytes.ofText a.statusDocument.pretty) publicFileMode with
    | .ok f => (.ok (), f)
    | .error e => (.error e.toError, f)

/-- The body of a registration. -/
def registrationBody (a : AgentServer) (now : Nat) : Bytes :=
  Bytes.ofText (Json.compact (.ofMembers
    [("identity", a.config.identity), ("timestamp", Calendar.timestamp now)]))

/-- Registers the agent on the core bus. -/
def publishRegistration (h : Host) (a : AgentServer) (target : String) : Host :=
  (h.withStore localBrokerUrl fun s =>
    s.publishCore
      { subject := target
        sender := a.config.identity
        payload := a.registrationBody h.wallClock }).2

/-- The settings of an agent that registers itself. -/
def registering? (a : AgentServer) : Option OperationalSettings :=
  if a.inProcess then a.config.operational? else none

/-- The pause before the first registration. -/
def firstPause (h : Host) (s : OperationalSettings) : Duration × Host :=
  if s.registrationSplay then
    match h.entropy.draw with
    | (bytes, entropy) =>
      (.ofMillis (Bytes.toNatBig bytes % (s.registrationInterval.millis + 1)), { h with entropy })
  else (.zero, h)

/-- A step of the run of an agent server. -/
def step (h : Host) (t : StopToken) (a : AgentServer) :
    Stage → Progress Stage (Outcome Error Unit) × Host × AgentServer
  | .starting =>
    match a.course with
    | some _ => (.next (.course h.uptime), h, a)
    | none =>
      match a.config.operational? with
      | none => (.next .ready, h, a)
      | some s =>
        match a.writeStatus h.files s.statusFile with
        | (.ok (), files) => (.next .ready, { h with files }, a)
        | (.error e, files) => (.done (.error e), { h with files }, a)
  | .ready =>
    let h := h.call a.pending
    let a := { a with pending := [] }
    match a.registering? with
    | none => (.next .idle, h, a)
    | some s =>
      match firstPause h s with
      | (pause, h) => (.next (.pausing (h.timer pause)), h, a)
  | .idle => if h.isCancelled t then (.done (.ok ()), h, a) else (.wait none, h, a)
  | .pausing wake =>
    match a.registering? with
    | none => (.done (.ok ()), h, a)
    | some s =>
      match h.pause t wake with
      | .cut => (.done (.ok ()), h, a)
      | .lasting => (.wait (some wake), h, a)
      | .over =>
        let h := a.publishRegistration h s.registrationTarget
        (.next (.pausing (h.timer s.registrationInterval)), h, a)
  | .course start =>
    match a.course with
    | none => (.done (.ok ()), h, a)
    | some c => ((c.step h t start).inside .course, h, a)

end AgentServer

end EdgeNode
