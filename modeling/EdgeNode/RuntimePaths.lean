import EdgeNode.Defaults
import EdgeNode.Json.Value
import EdgeNode.Path
/-!
# Runtime paths

Where a node keeps its files: credentials and facts beside the configuration file, mutable state
under the state directory.
-/

namespace EdgeNode

/-- The files and directories of a node. -/
structure RuntimePaths where
  /-- The configuration file. -/
  configFile : String
  /-- The directory of the configuration file. -/
  configurationDirectory : String
  /-- The directory of autonomous agents. -/
  machinesDirectory : String
  /-- The token for provisioning. -/
  provisioningTokenFile : String
  /-- The facts document. -/
  factsFile : String
  /-- The durable signing seed. -/
  serverSeedFile : String
  /-- The identity token. -/
  serverTokenFile : String
  /-- The seed of the broker user. -/
  userSeedFile : String
  /-- The credentials of the broker user. -/
  credentialsFile : String
  /-- The local authority's certificate. -/
  caFile : String
  /-- The local certificate. -/
  certFile : String
  /-- The key of the local certificate. -/
  keyFile : String
  /-- The root of mutable state. -/
  stateDirectory : String
  /-- The agent's status document. -/
  statusFile : String
  /-- The submission spool. -/
  submissionDirectory : String
  /-- The most entries in the spool. -/
  submissionSpoolSize : Nat
  /-- The broker's stream storage. -/
  storageDirectory : String
  /-- The replication cursors. -/
  replicationStateDirectory : String
deriving DecidableEq, Repr

namespace RuntimePaths

/-- The directory of a configuration file; a bare file name lies in the current directory. -/
def directoryOf (configFile : String) : String :=
  match Path.parent? configFile with
  | some dir => if dir.isEmpty then "." else dir
  | none => "."

/-- The paths for a configuration file and a state directory. -/
def ofFiles (configFile stateDirectory : String) : RuntimePaths :=
  let dir := directoryOf configFile
  { configFile
    configurationDirectory := dir
    machinesDirectory := Path.join dir "machines"
    provisioningTokenFile := Path.join dir "provisioning.jwt"
    factsFile := Path.join dir "instance.json"
    serverSeedFile := Path.join dir "server.seed"
    serverTokenFile := Path.join dir "server.jwt"
    userSeedFile := Path.join dir "nats.nkey"
    credentialsFile := Path.join dir "nats.creds"
    caFile := Path.join dir "ca.pem"
    certFile := Path.join dir "cert.pem"
    keyFile := Path.join dir "key.pem"
    stateDirectory
    statusFile := Path.join stateDirectory "status.json"
    submissionDirectory := Path.join stateDirectory "submission"
    submissionSpoolSize := EdgeNode.submissionSpoolSize
    storageDirectory := stateDirectory
    replicationStateDirectory := Path.join stateDirectory "replicator" }

/-- The paths for a configuration file under the default state root. -/
def ofConfigFile (configFile : String) : RuntimePaths :=
  ofFiles configFile defaultStateDirectory

/-- All that a node reads, writes or removes, but for its cursors. -/
def all (p : RuntimePaths) : List String :=
  [p.configFile, p.machinesDirectory, p.provisioningTokenFile, p.factsFile, p.serverSeedFile,
   p.serverTokenFile, p.userSeedFile, p.credentialsFile, p.caFile, p.certFile, p.keyFile,
   p.stateDirectory, p.statusFile, p.submissionDirectory, p.storageDirectory,
   p.replicationStateDirectory]

/-- The paths as a document; `started` is when the process began. -/
def toJson (p : RuntimePaths) (started : String) : Json :=
  .ofMembers
    [("config_file", p.configFile),
     ("configuration_directory", p.configurationDirectory),
     ("machines_directory", p.machinesDirectory),
     ("provisioning_token_file", p.provisioningTokenFile),
     ("facts_file", p.factsFile),
     ("server_seed_file", p.serverSeedFile),
     ("server_jwt_file", p.serverTokenFile),
     ("nats_nkey_seed_file", p.userSeedFile),
     ("nats_credentials_file", p.credentialsFile),
     ("ca_file", p.caFile),
     ("cert_file", p.certFile),
     ("key_file", p.keyFile),
     ("state_directory", p.stateDirectory),
     ("status_file", p.statusFile),
     ("submission_directory", p.submissionDirectory),
     ("submission_spool_size", p.submissionSpoolSize),
     ("storage_directory", p.storageDirectory),
     ("replication_state_directory", p.replicationStateDirectory),
     ("start_time", started)]

end RuntimePaths

end EdgeNode
