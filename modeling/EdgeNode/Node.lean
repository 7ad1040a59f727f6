import EdgeNode.Launch
import EdgeNode.ModeSelection
import EdgeNode.Reset
import EdgeNode.Schedule
/-!
# The node

A node boots once: it reads its configuration, prepares its files, selects a mode and starts what
the mode and its role ask for.  A leader first waits for its broker.  A node that runs stays until
all its tasks have ended; if it does not boot, it cancels them.
-/

namespace EdgeNode

/-- What a node works with. -/
structure Collaborators where
  /-- The broker that a leader runs. -/
  broker : BrokerKind := .memory .zero
  /-- The implementations of data adapters. -/
  adapters : List AdapterKind := [.registration]
  /-- What runs the replication jobs. -/
  engine : Engine := .copying {} (.ofMillis 250) .network
  /-- The agent framework. -/
  framework : Framework := .network
  /-- Who makes the node known to the provisioner. -/
  target : ProvisioningTarget := .token

/-- A node. -/
structure Node where
  /-- Its options, validated. -/
  options : Options
  /-- Its files. -/
  paths : RuntimePaths
  /-- Its plugins. -/
  plugins : PluginRegistry := {}
  /-- The token that stops it. -/
  token : StopToken
  /-- The group of its tasks. -/
  group : Group

namespace Node

/-- A path that starts at the root. -/
def absolute (f : Files) (path : String) : String :=
  if Path.isAbsolute path then path
  else Path.join ("/" ++ String.intercalate "/" f.current) path

/-- The paths of a node; without a state directory it is the usual one. -/
def pathsFor (f : Files) (configFile : String) : Option String → RuntimePaths
  | none => .ofConfigFile (absolute f configFile)
  | some state => .ofFiles (absolute f configFile) (absolute f state)

/-- A new node. -/
def create (p : Pool) (o : Options) (configFile : String) (stateDirectory : Option String) :
    Except Error Node × Pool :=
  match o.validate with
  | (.error e, _) => (.error e, p)
  | (.ok (), options) =>
    let paths := pathsFor p.host.files configFile stateDirectory
    let (token, p) := p.newToken
    let (group, p) := p.newGroup
    (.ok { options, paths, token, group }, p)

/-- Fills the registry of plugins. -/
def loadPlugins (n : Node) : Except Error Bool × Node :=
  match n.plugins.load n.options.plugins with
  | (result, plugins) => (result, { n with plugins })

/-- Reads a configuration file. -/
def readConfig (f : Files) (path : String) : Except Error Config :=
  match f.readText path with
  | .error e => .error (.io path e)
  | .ok content => Config.parse path content

/-- The configuration of a node, if its file is there. -/
def loadConfig (f : Files) (p : RuntimePaths) : Except Error (Option Config) :=
  if f.has p.configFile then (readConfig f p.configFile).map some else .ok none

/-- The paths that a node may work on: its own and those of the cursors of its jobs. -/
def workPaths (f : Files) (p : RuntimePaths) : List String :=
  match loadConfig f p with
  | .ok (some config) =>
    match ReplicationTopology.ofConfig config p with
    | .ok t => p.all ++ t.jobs.map t.cursorPath
    | .error _ => p.all
  | _ => p.all

/-- Writes the facts. -/
def saveFacts (n : Node) (h : Host) : Except Error Unit × Node × Host :=
  match n.loadPlugins with
  | (.error e, n) => (.error e, n, h)
  | (.ok _, n) =>
    match Facts.save h n.options n.paths with
    | (result, h) => (result, n, h)

/-! ### Booting -/

/-- What is known before anything is started. -/
structure Prepared where
  /-- The configuration. -/
  config : Option Config
  /-- The role. -/
  role : Role
  /-- The mode. -/
  mode : Mode
  /-- The configuration of the agent server. -/
  server : ServerConfig
  /-- What was done for the mode. -/
  actions : PostActions
deriving DecidableEq, Repr

/-- The configuration, if this node runs a broker. -/
def Prepared.leaderConfig? (b : Prepared) : Option Config :=
  if b.mode = .operational ∧ b.role = .leader then b.config else none

/-- A booted node. -/
structure Booted where
  /-- What was known before anything was started. -/
  prepared : Prepared
  /-- The managed broker and the supervisor of replication of a leader. -/
  leader : Option (Nat × Nat)
  /-- The agent server. -/
  agent : Nat
deriving DecidableEq, Repr

/-- Settles what is to be started.  A seed or facts that cannot be written do not stop the node. -/
def prepare (n : Node) (h : Host) (target : ProvisioningTarget) (config : Option Config) :
    Except Error Prepared × Host :=
  let (_, files, entropy) := h.files.ensureUserSeed h.entropy n.paths.userSeedFile
  let (_, h) := Facts.save { h with files, entropy } n.options n.paths
  let mode := Mode.selectFor h.files n.paths config
  match ServerConfig.materialize h.files h.entropy n.paths n.options h.name mode config with
  | (.error e, files, entropy) => (.error e, { h with files, entropy })
  | (.ok server, files, entropy) =>
    let (actions, files) := applyPostActions files target server n.paths config
    (.ok { config, role := Role.ofConfig config, mode, server, actions },
      { h with files, entropy })

/-- Where booting stands. -/
inductive Boot where
  /-- It begins. -/
  | starting
  /-- The configuration is read. -/
  | configured (config : Option Config)
  /-- All is settled. -/
  | settled (b : Prepared)
  /-- The broker is launched; the node waits for it. -/
  | waiting (b : Prepared) (config : Config) (broker : Nat) (stage : BrokerManager.WaitStage)
  /-- The broker accepts connections. -/
  | ready (b : Prepared) (config : Config) (broker : Nat)
  /-- What a leader runs is started. -/
  | leading (b : Prepared) (leader : Option (Nat × Nat))

/-- What a step of booting comes to. -/
abbrev BootTurn := Progress Boot (Except Error Booted)

/-- Launches the broker of a leader. -/
def launchLeader (n : Node) (c : Collaborators) (p : Pool) (b : Prepared) (config : Config) :
    BootTurn × Pool :=
  let h := p.host
  match BrokerConfig.prepare h.files h.entropy h.wallClock (config.identity h.name)
      n.paths.configurationDirectory n.paths.storageDirectory with
  | (.error e, files, entropy) => (.done (.error e), { p with host := { h with files, entropy } })
  | (.ok settings, files, entropy) =>
    let manager : BrokerManager :=
      { config := settings, kind := c.broker, implementations := c.adapters }
    let (id, p) := { p with host := { h with files, entropy } }.addBroker manager
    (.next (.waiting b config id .entering), p.launchBroker n.group n.token id)

/-- Starts the replication of a leader. -/
def startLeader (n : Node) (c : Collaborators) (p : Pool) (b : Prepared) (config : Config)
    (broker : Nat) : BootTurn × Pool :=
  match ReplicationTopology.ofConfig config n.paths with
  | .error e => (.done (.error e), p)
  | .ok topology =>
    match p.startReplication n.group n.token b.role topology c.engine with
    | (.error e, p) => (.done (.error e), p)
    | (.ok supervisor, p) => (.next (.leading b (some (broker, supervisor))), p)

/-- Starts the agent server and, on a provisioned node, the refresh of the facts. -/
def startAgent (n : Node) (c : Collaborators) (p : Pool) (b : Prepared)
    (leader : Option (Nat × Nat)) : BootTurn × Pool :=
  match p.startServer n.group n.token c.framework b.server leader.isSome n.options.notifyReady with
  | (.error e, p) => (.done (.error e), p)
  | (.ok agent, p) =>
    let p :=
      if b.mode = .operational then
        p.launchRefresh n.group n.token n.options.factsRefreshInterval n.options n.paths
      else p
    (.done (.ok { prepared := b, leader, agent }), p)

/-- A step of booting. -/
def bootStep (n : Node) (c : Collaborators) (p : Pool) : Boot → BootTurn × Pool
  | .starting =>
    match loadConfig p.host.files n.paths with
    | .error e => (.done (.error e), p)
    | .ok config => (.next (.configured config), p)
  | .configured config =>
    match n.prepare p.host c.target config with
    | (.error e, host) => (.done (.error e), { p with host })
    | (.ok b, host) => (.next (.settled b), { p with host })
  | .settled b =>
    match b.leaderConfig? with
    | none => (.next (.leading b none), p)
    | some config => n.launchLeader c p b config
  | .waiting b config broker stage =>
    match p.readyStep n.group n.token broker .standard stage with
    | (.next stage, p) => (.next (.waiting b config broker stage), p)
    | (.wait wake, p) => (.wait wake, p)
    | (.done (.ok ()), p) => (.next (.ready b config broker), p)
    | (.done (.error e), p) => (.done (.error e), p)
  | .ready b config broker => n.startLeader c p b config broker
  | .leading b leader => n.startAgent c p b leader

/-- Boots a node.  There is no answer if it would wait for ever. -/
def boot (n : Node) (c : Collaborators) (p : Pool) : Option (Except Error Booted) × Node × Pool :=
  match n.loadPlugins with
  | (.error e, n) => (some (.error e), n, p)
  | (.ok _, n) =>
    match p.run (n.bootStep c) .starting with
    | (result, p) => (result, n, p)

/-! ### Running -/

/-- Where the run of a node stands. -/
inductive Run where
  /-- It boots. -/
  | booting (stage : Boot)
  /-- It waits for the end of its tasks. -/
  | draining (result : Except Error Booted)

/-- Ends the boot of a node that runs. -/
def afterBoot (n : Node) (p : Pool) (result : Except Error Booted) : Run × Pool :=
  match result with
  | .ok _ => (.draining result, p)
  | .error _ => (.draining result, p.cancel n.token)

/-- A step of the run of a node. -/
def runStep (n : Node) (c : Collaborators) (p : Pool) :
    Run → Progress Run (Except Error Unit) × Pool
  | .booting stage =>
    match n.bootStep c p stage with
    | (.next stage, p) => (.next (.booting stage), p)
    | (.wait wake, p) => (.wait wake, p)
    | (.done result, p) =>
      match n.afterBoot p result with
      | (stage, p) => (.next stage, p)
  | .draining result =>
    if p.running n.group = 0 then (.done (result.map fun _ => ()), p) else (.wait none, p)

/-- Begins the run of a node. -/
def startRun (n : Node) (p : Pool) : Run × Node × Pool :=
  match n.loadPlugins with
  | (.error e, n) =>
    match n.afterBoot p (.error e) with
    | (stage, p) => (stage, n, p)
  | (.ok _, n) => (.booting .starting, n, p)

/-- Runs a node to its end.  There is no answer if it would wait for ever. -/
def run (n : Node) (c : Collaborators) (p : Pool) : Option (Except Error Unit) × Node × Pool :=
  match n.startRun p with
  | (stage, n, p) =>
    match p.run (n.runStep c) stage with
    | (result, p) => (result, n, p)

/-- Removes everything that the node made or was issued. -/
def reset (n : Node) (f : Files) : ResetReport × Files :=
  EdgeNode.reset f n.paths

end Node

end EdgeNode
