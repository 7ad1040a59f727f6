import EdgeNode.Calendar
import EdgeNode.Host
import EdgeNode.Json.Printer
import EdgeNode.Keys
import EdgeNode.Options
import EdgeNode.Progress
import EdgeNode.RuntimePaths
import EdgeNode.Token
/-!
# Facts

The facts tell who a node is: its keys and tokens, its options and what the token for provisioning
claims, and sections about the machine.  A file that cannot be read leaves its place empty.
-/

namespace EdgeNode.Facts

-- powers are those of the core library, whatever else is imported
attribute [local instance (high)] instPowNat

/-- The sections, in the order in which they are documented. -/
def sections : List String :=
  ["machine_room", "host", "mem", "swap", "cpu", "disk", "net"]

/-- The trimmed content of a text file, empty where it cannot be read. -/
def textOf (f : Files) (path : String) : String :=
  match f.readText path with
  | .ok s => Text.trimmed s
  | .error _ => ""

/-- The text of a key, empty where there is none. -/
def keyText : Except KeyError String → String
  | .ok s => s
  | .error _ => ""

/-- The answer of the generator of further facts, and the host that notes that it was asked. -/
def further (h : Host) (o : Options) (p : RuntimePaths) : Option Json × Host :=
  match o.additionalFacts with
  | none => (none, h)
  | some hook =>
    let asked := h.asked ++ [hook.id]
    let calls := (asked.filter (· == hook.id)).length
    ((hook.answer calls o.name p.configFile).toOption, { h with asked })

/-- The section about the node itself. -/
def nodeSection (h : Host) (o : Options) (p : RuntimePaths) : Json × Host :=
  let provisioningToken := textOf h.files p.provisioningTokenFile
  let entries : List (String × Json) :=
    [("timestamp", Calendar.timestamp h.wallClock),
     ("timestamp_seconds", (h.wallClock / 1000000000 : Nat)),
     ("server", .ofMembers
      [("token", textOf h.files p.serverTokenFile),
       ("public_key", keyText (h.files.signingPublicKey p.serverSeedFile)),
       ("public_nkey", keyText (h.files.userPublicKey p.userSeedFile))]),
     ("options", o.toJson),
     ("provisioning", .ofMembers
      [("extended_claims", .ofMembers (Token.extensionClaims provisioningToken)),
       ("token", provisioningToken)])]
  match further h o p with
  | (none, h) => (.ofMembers entries, h)
  | (some extra, h) => (.ofMembers (entries ++ [("additional_facts", extra)]), h)

/-- The sections about the machine that the options ask for. -/
def machineSections (r : Readings) (o : Options) : List (String × Json) :=
  if o.noStandardFacts then []
  else
    [(o.noMemoryFacts, "mem", r.memory), (o.noSwapFacts, "swap", r.swap),
     (o.noCpuFacts, "cpu", r.cpu), (o.noDiskFacts, "disk", r.disk),
     (o.noHostFacts, "host", r.host), (o.noNetworkFacts, "net", r.network)].filterMap
      fun (without, name, value) => if without then none else some (name, value)

/-- The facts.  A section that is left out is an empty object. -/
def generate (h : Host) (o : Options) (p : RuntimePaths) : Json × Host :=
  match nodeSection h o p with
  | (node, h) =>
    (.ofMembers (sections.map (·, Json.obj []) ++ [("machine_room", node)]
      ++ machineSections h.readings o), h)

/-- Writes the facts, for their owner only. -/
def save (h : Host) (o : Options) (p : RuntimePaths) : Except Error Unit × Host :=
  match generate h o p with
  | (facts, h) =>
    match h.files.createParent p.factsFile with
    | (.error e, files) => (.error e, { h with files })
    | (.ok (), files) =>
      match files.writeKeyFile p.factsFile (Bytes.ofText facts.pretty) privateFileMode with
      | .ok files => (.ok (), { h with files })
      | .error e => (.error e.toError, { h with files })

/-! ### The periodic refresh -/

/-- Where the refresh stands. -/
inductive Refresh where
  /-- It begins. -/
  | starting
  /-- It waits for the next write, due at a number of nanoseconds. -/
  | waiting (due : Duration)
deriving DecidableEq, Repr

/-- The seconds that no clock reaches. -/
def endOfTime : Nat := 2 ^ (63 : Nat) - 1

/-- The wait for a write that is due one interval after an instant.  There is no such wait where
time ends. -/
def Refresh.after (instant interval : Duration) : Progress Refresh (Outcome Error Unit) :=
  if (instant.add interval).secs < endOfTime then .next (.waiting (instant.add interval))
  else .done .crash

/-- A step of the refresh.  The first write comes one interval after the start; a write that fails
is left out.  There is no refresh without an interval. -/
def Refresh.step (h : Host) (t : StopToken) (interval : Duration) (o : Options) (p : RuntimePaths) :
    Refresh → Progress Refresh (Outcome Error Unit) × Host
  | .starting =>
    if interval.nanos = 0 then (.done .crash, h)
    else (Refresh.after (.ofMillis h.uptime) interval, h)
  | .waiting due =>
    match h.pause t due.ceilMillis with
    | .cut => (.done (.ok ()), h)
    | .lasting => (.wait (some due.ceilMillis), h)
    | .over =>
      match save h o p with
      | (_, h) => (Refresh.after due interval, h)

end EdgeNode.Facts
