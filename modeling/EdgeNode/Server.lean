import EdgeNode.Duration
import EdgeNode.Json.Value
/-!
# Agent server settings

The agent server is either waiting to be provisioned or operational, and has settings for the one
or the other.
-/

namespace EdgeNode

/-- Whether a node waits to be provisioned. -/
inductive Mode where
  /-- It lacks credentials or was asked to be provisioned again. -/
  | provisioning
  /-- It is provisioned. -/
  | operational
deriving DecidableEq, Repr

/-- The name of a mode. -/
def Mode.name : Mode → String
  | .provisioning => "provisioning"
  | .operational => "operational"

/-- The settings of a node that waits to be provisioned. -/
structure ProvisioningSettings where
  /-- The token shown to the provisioner. -/
  tokenFile : String
  /-- The facts published meanwhile. -/
  factsFile : String
deriving DecidableEq, Repr

/-- The settings of a provisioned node. -/
structure OperationalSettings where
  /-- The durable signing seed. -/
  seedFile : String
  /-- The identity token. -/
  tokenFile : String
  /-- The directory of autonomous agents. -/
  machinesDirectory : String
  /-- The public key that autonomous agents must be signed with. -/
  signerKey : String
  /-- The status document. -/
  statusFile : String
  /-- The submission spool. -/
  submissionSpool : String
  /-- The most entries in the spool. -/
  submissionSpoolSize : Nat
  /-- The time between two registrations. -/
  registrationInterval : Duration
  /-- Whether the first registration comes at a random time. -/
  registrationSplay : Bool
  /-- The registration plugins. -/
  registration : List String
  /-- The subject of registrations. -/
  registrationTarget : String
  /-- The collectives joined. -/
  collectives : List String
  /-- The collective used where none is named. -/
  mainCollective : String
  /-- The facts document. -/
  factsFile : String
deriving DecidableEq, Repr

/-- The settings of either mode. -/
inductive ModeSettings where
  /-- Of a node that waits to be provisioned. -/
  | provisioning (s : ProvisioningSettings)
  /-- Of a provisioned node. -/
  | operational (s : OperationalSettings)
deriving DecidableEq, Repr

/-- The configuration of the agent server. -/
structure ServerConfig where
  /-- The node's configuration file. -/
  configFile : String
  /-- The node's identity. -/
  identity : String
  /-- Whether brokers are looked up by service records. -/
  useSrvRecords : Bool := false
  /-- The settings of its mode. -/
  settings : ModeSettings
deriving DecidableEq, Repr

namespace ServerConfig

/-- The mode that the settings are for. -/
def mode (c : ServerConfig) : Mode :=
  match c.settings with
  | .provisioning _ => .provisioning
  | .operational _ => .operational

/-- The name of the way in which the server proves who it is. -/
def securityProvider (c : ServerConfig) : String :=
  match c.mode with
  | .provisioning => "file"
  | .operational => "choria"

/-- Whether peers go unverified. -/
def verifyDisabled (c : ServerConfig) : Bool :=
  c.mode == .provisioning

/-- The settings of a provisioned node. -/
def operational? (c : ServerConfig) : Option OperationalSettings :=
  match c.settings with
  | .operational s => some s
  | .provisioning _ => none

end ServerConfig

/-- The settings as a document. -/
def ModeSettings.toJson : ModeSettings → Json
  | .provisioning s =>
    .ofMembers
      [("mode", "provisioning"), ("token_file", s.tokenFile), ("facts_file", s.factsFile)]
  | .operational s =>
    .ofMembers
      [("mode", "operational"),
       ("seed_file", s.seedFile),
       ("token_file", s.tokenFile),
       ("machine_source_directory", s.machinesDirectory),
       ("machines_signer_public_key", s.signerKey),
       ("status_file", s.statusFile),
       ("submission_spool", s.submissionSpool),
       ("submission_spool_size", s.submissionSpoolSize),
       ("registration_interval", s.registrationInterval.secs),
       ("registration_splay", s.registrationSplay),
       ("registration", .texts s.registration),
       ("registration_target", s.registrationTarget),
       ("collectives", .texts s.collectives),
       ("main_collective", s.mainCollective),
       ("facts_file", s.factsFile)]

/-- The configuration as a document. -/
def ServerConfig.toJson (c : ServerConfig) : Json :=
  .ofMembers
    [("config_file", c.configFile),
     ("identity", c.identity),
     ("use_srv_records", c.useSrvRecords),
     ("settings", c.settings.toJson)]

/-- The configuration with what follows from it, as a document. -/
def ServerConfig.summary (c : ServerConfig) : Json :=
  .ofMembers
    [("config", c.toJson),
     ("mode", c.mode.name),
     ("security_provider", c.securityProvider),
     ("verify_disabled", c.verifyDisabled),
     ("operational", c.operational?.isSome)]

end EdgeNode
