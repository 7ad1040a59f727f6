import EdgeNode.Error
import EdgeNode.Keyed
/-!
# Plugins

The agent server finds its agents, watchers and data providers in a registry that is filled once,
from the built-in plugins and those of the embedding application.
-/

namespace EdgeNode

/-- What a plugin provides. -/
inductive PluginKind where
  /-- The provisioning conversation. -/
  | provisioner
  /-- Compiled-in agents. -/
  | agentProvider
  /-- A watcher of autonomous agents. -/
  | watcher
  /-- The management of autonomous agents. -/
  | machineManager
  /-- Data for autonomous agents. -/
  | dataProvider
deriving DecidableEq, Repr

/-- The name of a kind. -/
def PluginKind.name : PluginKind → String
  | .provisioner => "provisioner"
  | .agentProvider => "agent_provider"
  | .watcher => "machine_watcher"
  | .machineManager => "machine"
  | .dataProvider => "data"

/-- The kind with a name; any other name is a data provider. -/
def PluginKind.ofName (name : String) : PluginKind :=
  ([.provisioner, .agentProvider, .watcher, .machineManager].find? fun k =>
    PluginKind.name k == name).getD .dataProvider

/-- A plugin. -/
structure Plugin where
  /-- Its own name. -/
  name : String
  /-- What it provides. -/
  kind : PluginKind
deriving DecidableEq, Repr

/-- The plugins of every node, by registration key. -/
def builtinPlugins : Keyed Plugin :=
  Keyed.ofList
    [("choria_provision", ⟨"choria_provision", .provisioner⟩),
     ("agent_provider_golang", ⟨"golang", .agentProvider⟩),
     ("watcher_archive", ⟨"archive", .watcher⟩),
     ("watcher_exec", ⟨"exec", .watcher⟩),
     ("watcher_file", ⟨"file", .watcher⟩),
     ("watcher_kv", ⟨"kv", .watcher⟩),
     ("watcher_metric", ⟨"metric", .watcher⟩),
     ("watcher_nagios", ⟨"nagios", .watcher⟩),
     ("watcher_plugins", ⟨"plugins", .watcher⟩),
     ("watcher_schedule", ⟨"schedule", .watcher⟩),
     ("watcher_timer", ⟨"timer", .watcher⟩),
     ("machine_plugins_manager", ⟨"machines_manager", .machineManager⟩),
     ("data_choria", ⟨"choria", .dataProvider⟩),
     ("data_machine", ⟨"machine", .dataProvider⟩),
     ("data_scout", ⟨"scout", .dataProvider⟩)]

/-- The registry of plugins. -/
structure PluginRegistry where
  /-- Whether it was filled, be it in part. -/
  loaded : Bool := false
  /-- The plugins by key. -/
  plugins : Keyed Plugin := []
deriving DecidableEq, Repr

namespace PluginRegistry

/-- Registers plugins in turn, up to the first key that is taken. -/
def registerAll (plugins : Keyed Plugin) : List (String × Plugin) →
    Except Error Unit × Keyed Plugin
  | [] => (.ok (), plugins)
  | (key, plugin) :: rest =>
    if plugins.has key then
      (.error (.config ("plugin " ++ key ++ " failed: already registered")), plugins)
    else registerAll (plugins.insert key plugin) rest

/-- Registers the built-in plugins and the given ones.  Only the first call does anything, and the
answer says whether this was it. -/
def load (r : PluginRegistry) (extra : Keyed Plugin) : Except Error Bool × PluginRegistry :=
  if r.loaded then (.ok false, r)
  else
    match registerAll r.plugins (builtinPlugins ++ extra) with
    | (result, plugins) => (result.map fun _ => true, { loaded := true, plugins })

/-- The plugins of a kind, by key. -/
def ofKind (r : PluginRegistry) (kind : PluginKind) : List Plugin :=
  r.plugins.values.filter fun p => p.kind == kind

end PluginRegistry

end EdgeNode
