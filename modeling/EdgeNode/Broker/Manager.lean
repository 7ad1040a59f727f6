import EdgeNode.Broker.Config
import EdgeNode.Topology.Provision
/-!
# The broker's manager

The manager launches the broker, asks time and again whether it accepts connections, and then has
its resources made and its data adapters started.  Its state says how far this has come.  The run
of the broker, the wait for it and the making of the resources go on beside each other.
-/

namespace EdgeNode

/-- The broker that is managed. -/
inductive BrokerKind where
  /-- It serves a store in memory and accepts connections some time after it was launched. -/
  | memory (startupDelay : Duration)
  /-- Its course and, at every instant, whether it accepts connections are laid down. -/
  | scripted (accepts : Nat → Bool) (course : Course)

/-- An implementation of a data adapter. -/
inductive AdapterKind where
  /-- It copies registrations into the nodes stream. -/
  | registration
  /-- It notes that it was started, and may fail then. -/
  | recorder (name : String) (fails : Bool)
deriving DecidableEq, Repr

/-- The name that an implementation is found by. -/
def AdapterKind.name : AdapterKind → String
  | .registration => AdapterConfig.registration.name
  | .recorder name _ => name

/-- A broker with all that its manager knows of it. -/
structure BrokerManager where
  /-- The settings. -/
  config : BrokerConfig
  /-- The broker. -/
  kind : BrokerKind := .memory .zero
  /-- The address of the store it serves. -/
  url : String := localBrokerUrl
  /-- The implementations of data adapters; of two with one name the later counts. -/
  implementations : List AdapterKind := []
  /-- The pace at which resources are made. -/
  retry : RetryConfig := {}
  /-- The pause between two checks whether the broker accepts connections. -/
  poll : Duration := brokerPoll
  /-- How far the broker has come. -/
  state : BrokerState := .notStarted
  /-- Whether the store in memory accepts connections. -/
  serving : Bool := false
  /-- The starts that recording adapters noted. -/
  adapterStarts : List String := []

namespace BrokerManager

/-- Whether the broker accepts connections. -/
def isReady (m : BrokerManager) (now : Nat) : Bool :=
  match m.kind with
  | .memory _ => m.serving
  | .scripted accepts _ => accepts now

/-- The manager in another state. -/
def enter (m : BrokerManager) (state : BrokerState) : BrokerManager :=
  { m with state }

/-- The link to the broker's store. -/
def link (m : BrokerManager) (now : Nat) : StoreLink Host :=
  .toHost m.url (m.isReady now)

/-! ### The run of the broker -/

/-- Where the run of the broker stands. -/
inductive RunStage where
  /-- Launched. -/
  | launching
  /-- Starting up until an instant. -/
  | startingUp (wake : Nat)
  /-- Serving. -/
  | serving
  /-- On a course that began at an instant. -/
  | course (start : Nat)
deriving DecidableEq, Repr

/-- The manager of a broker whose run ended. -/
def afterRun (m : BrokerManager) : Outcome Error Unit → BrokerManager
  | .error _ => m.enter .failed
  | _ => m

/-- A step of the run of the broker. -/
def runStep (m : BrokerManager) (h : Host) (t : StopToken) :
    RunStage → Progress RunStage (Outcome Error Unit) × Host × BrokerManager
  | .launching =>
    match m.kind with
    | .scripted .. => (.next (.course h.uptime), h, m)
    | .memory delay =>
      match h.files.createDirectories m.config.storageDirectory with
      | (files, .ok ()) => (.next (.startingUp (h.timer delay)), { h with files }, m)
      | (files, .error e) =>
        let failure : Outcome Error Unit := .error (.io m.config.storageDirectory e)
        (.done failure, { h with files }, m.afterRun failure)
  | .startingUp wake =>
    match h.pause t wake with
    | .cut => (.done (.ok ()), h, m)
    | .over => (.next .serving, h, { m with serving := true })
    | .lasting => (.wait (some wake), h, m)
  | .serving =>
    if h.isCancelled t then (.done (.ok ()), h, { m with serving := false })
    else (.wait none, h, m)
  | .course start =>
    match m.kind with
    | .memory _ => (.done (.ok ()), h, m)
    | .scripted _ c =>
      match c.step h t start with
      | .done result => (.done result, h, m.afterRun result)
      | p => (p.inside .course, h, m)

/-! ### The wait for the broker -/

/-- Where the wait for the broker stands. -/
inductive WaitStage where
  /-- It begins. -/
  | entering
  /-- About to ask. -/
  | asking
  /-- Pausing until an instant. -/
  | pausing (wake : Nat)
deriving DecidableEq, Repr

/-- A step of the wait for the broker. -/
def waitStep (m : BrokerManager) (h : Host) (t : StopToken) :
    WaitStage → Progress WaitStage (Except Error Unit) × BrokerManager
  | .entering => (.next .asking, m.enter .waitingReady)
  | .asking =>
    if m.isReady h.uptime then (.done (.ok ()), m.enter .ready)
    else (.next (.pausing (h.timer m.poll)), m)
  | .pausing wake =>
    match h.pause t wake with
    | .cut => (.done (.error (.ready "shutdown requested")), m.enter .failed)
    | .over => (.next .asking, m)
    | .lasting => (.wait (some wake), m)

/-! ### The making of the resources -/

/-- The manager when the making of the resources has ended.  Only success counts. -/
def afterProvisioning (m : BrokerManager) : Outcome Error ProvisionReport → BrokerManager
  | .ok _ => m.enter .running
  | _ => m

/-- A step of making the resources. -/
def provisionStep (m : BrokerManager) (h : Host) (t : StopToken) (spec : TopologySpec)
    (stage : Provisioning) : Progress Provisioning (Outcome Error Unit) × Host × BrokerManager :=
  match stage.step (m.link h.uptime) spec m.retry h.jitter h.uptime (h.isCancelled t) h with
  | (.done result, h) =>
    (.done (.ok ()), h, m.afterProvisioning (result.mapError RetryError.toError))
  | (.next stage, h) => (.next stage, h, m)
  | (.wait wake, h) => (.wait wake, h, m)

/-! ### The data adapters -/

/-- The implementation with a name. -/
def implementation? (m : BrokerManager) (name : String) : Option AdapterKind :=
  m.implementations.reverse.find? fun k => k.name == name

/-- The configured data adapters that have an implementation. -/
def runnableAdapters (m : BrokerManager) : List (AdapterConfig × AdapterKind) :=
  m.config.adapters.filterMap fun c => (m.implementation? c.name).map (c, ·)

end BrokerManager

end EdgeNode
