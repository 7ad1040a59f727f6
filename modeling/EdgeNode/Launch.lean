import EdgeNode.Pool
/-!
# Launching

How brokers, data adapters, replication, agent servers and the refresh of the facts are set going.
All that is launched is a task of the pool; nothing of it has run when the launch returns.
-/

namespace EdgeNode.Pool

/-! ### Brokers -/

/-- Puts a broker under management. -/
def addBroker (p : Pool) (m : BrokerManager) : Nat × Pool :=
  (p.brokers.length, { p with brokers := p.brokers ++ [m] })

/-- The pool with a managed broker changed. -/
def modifyBroker (p : Pool) (id : Nat) (f : BrokerManager → BrokerManager) : Pool :=
  { p with brokers := p.brokers.modify id f }

/-- Launches a managed broker. -/
def launchBroker (p : Pool) (g : Group) (t : StopToken) (id : Nat) : Pool :=
  ((p.modifyBroker id fun m => m.enter .starting).spawn (some g) t (.broker id .launching)).2

/-- Has the resources of a managed broker made. -/
def launchProvisioning (p : Pool) (g : Group) (t : StopToken) (id : Nat) (spec : TopologySpec) :
    Pool :=
  match p.brokers[id]? with
  | none => p
  | some m =>
    ((p.modifyBroker id fun m => m.enter .provisioningTopology).spawn (some g) t
      (.provisioning id spec (.start m.retry))).2

/-! ### Data adapters -/

/-- Launches so many workers of a data adapter. -/
def launchWorkers (g : Group) (t : StopToken) (adapter : Nat) : Nat → Pool → Pool
  | 0, p => p
  | n + 1, p => launchWorkers g t adapter n (p.spawn (some g) t (.working adapter)).2

/-- Starts a registration adapter between the bus of one store and another store, whose broker may
not accept connections. -/
def startRegistration (p : Pool) (g : Group) (t : StopToken) (config : AdapterConfig)
    (busUrl storeUrl : String) (accepting : Bool) : Except Error Unit × Pool :=
  match openConnection accepting (config.name ++ "_adapter") with
  | .error e => (.error e, p)
  | .ok () =>
    let (adapter, host) := RegistrationAdapter.subscribe p.host config busUrl storeUrl
    let id := p.adapters.length
    let (_, p) := { p with host, adapters := p.adapters ++ [adapter] }.spawn (some g) t
      (.receiving id)
    (.ok (), launchWorkers g t id (RegistrationAdapter.workers config) p)

/-- Starts a data adapter of a managed broker.  That one cannot be started is no failure. -/
def startAdapter (p : Pool) (g : Group) (t : StopToken) (id : Nat) (config : AdapterConfig) :
    AdapterKind → Pool
  | .recorder name _ =>
    p.modifyBroker id fun m =>
      { m with adapterStarts := m.adapterStarts ++ [name ++ " " ++ config.ingestTopic] }
  | .registration =>
    match p.brokers[id]? with
    | none => p
    | some m =>
      (p.startRegistration g t config localBrokerUrl m.url (m.isReady p.host.uptime)).2

/-- Starts the data adapters of a managed broker in turn. -/
def startAdapters (g : Group) (t : StopToken) (id : Nat) : List (AdapterConfig × AdapterKind) →
    Pool → Pool
  | [], p => p
  | (config, kind) :: rest, p => startAdapters g t id rest (p.startAdapter g t id config kind)

/-- What follows when a managed broker accepts connections. -/
def afterReady (p : Pool) (g : Group) (t : StopToken) (id : Nat) (spec : TopologySpec) : Pool :=
  let p := p.launchProvisioning g t id spec
  match p.brokers[id]? with
  | none => p
  | some m => startAdapters g t id m.runnableAdapters p

/-- A step of the wait for a managed broker. -/
def waitStep (t : StopToken) (id : Nat) (p : Pool) (stage : BrokerManager.WaitStage) :
    Progress BrokerManager.WaitStage (Except Error Unit) × Pool :=
  match p.brokers[id]? with
  | none => (.done (.ok ()), p)
  | some m =>
    match m.waitStep p.host t stage with
    | (progress, m) => (progress, { p with brokers := p.brokers.set id m })

/-- A step of the start of a launched broker: the wait for it, and then what follows. -/
def readyStep (g : Group) (t : StopToken) (id : Nat) (spec : TopologySpec) (p : Pool)
    (stage : BrokerManager.WaitStage) :
    Progress BrokerManager.WaitStage (Except Error Unit) × Pool :=
  match p.waitStep t id stage with
  | (.done (.ok ()), p) => (.done (.ok ()), p.afterReady g t id spec)
  | other => other

/-! ### Replication -/

/-- Launches the jobs for a supervisor in turn. -/
def launchJobs (g : Group) (t : StopToken) (e : Engine) (topology : ReplicationTopology)
    (supervisor : Nat) : List ReplicationJob → Pool → Pool
  | [], p => p
  | j :: rest, p =>
    launchJobs g t e topology supervisor rest
      (p.spawn (some g) t (.supervised supervisor j (.pending e topology))).2

/-- Starts replication on a node with a role; answers the number of the supervisor. -/
def startReplication (p : Pool) (g : Group) (t : StopToken) (role : Role)
    (topology : ReplicationTopology) (e : Engine) : Except Error Nat × Pool :=
  match Supervisor.start role topology with
  | .error err => (.error err, p)
  | .ok s =>
    let id := p.supervisors.length
    (.ok id, launchJobs g t e topology id topology.jobs
      { p with supervisors := p.supervisors ++ [s] })

/-! ### Agent servers -/

/-- Adds an agent server. -/
def addAgent (p : Pool) (a : AgentServer) : Nat × Pool :=
  (p.agents.length, { p with agents := p.agents ++ [a] })

/-- Registers a new callback with an agent server. -/
def registerCallback (p : Pool) (id : Nat) : Pool :=
  match p.agents[id]? with
  | none => p
  | some a =>
    let (callback, p) := p.newCallback
    let (a, host) := a.register p.host callback
    { p with host, agents := p.agents.set id a }

/-- Starts an agent server; `notify` says whether someone is told when it is ready. -/
def startServer (p : Pool) (g : Group) (t : StopToken) (f : Framework) (config : ServerConfig)
    (inProcess notify : Bool) : Except Error Nat × Pool :=
  match AgentServer.build f p.host config inProcess with
  | .error e => (.error e, p)
  | .ok a =>
    let (id, p) := p.addAgent a
    let p := if notify then p.registerCallback id else p
    (.ok id, (p.spawn (some g) t (.serving id .starting)).2)

/-! ### Facts -/

/-- Has the facts written from time to time. -/
def launchRefresh (p : Pool) (g : Group) (t : StopToken) (interval : Duration) (o : Options)
    (paths : RuntimePaths) : Pool :=
  (p.spawn (some g) t (.refreshing interval o paths .starting)).2

end EdgeNode.Pool
