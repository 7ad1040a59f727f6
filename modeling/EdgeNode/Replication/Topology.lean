import EdgeNode.Config
import EdgeNode.Replication.Job
import EdgeNode.RuntimePaths
/-!
# Replication topology

The fixed jobs of a site: registrations and events go up to the backend, the configuration bucket
comes down.  `validate` says whether a set of jobs fits together.
-/

namespace EdgeNode

/-- What the replicator shows the backend. -/
structure ReplicationCredentials where
  /-- The durable signing seed. -/
  seedFile : String
  /-- The identity token. -/
  tokenFile : String
  /-- The collective joined on the backend. -/
  collective : String
deriving DecidableEq, Repr

/-- The jobs of a site. -/
structure ReplicationTopology where
  /-- The site. -/
  name : String
  /-- Where cursors are kept. -/
  stateDirectory : String
  /-- What the backend is shown. -/
  credentials : ReplicationCredentials
  /-- The jobs in the order in which they start. -/
  jobs : List ReplicationJob
deriving DecidableEq, Repr

namespace ReplicationTopology

/-- The jobs of every site, for a backend. -/
def standardJobs (backend : String) : List ReplicationJob :=
  [.toBackend "REGISTRATION" "REGISTRATION" "MACHINE_ROOM_NODES" backend none,
   .toBackend "SUBMIT" "SUBMIT" "MACHINE_ROOM_EVENTS" backend
    (some ⟨"choria.submission.in.", "machine_room.submit."⟩),
   .toBackend "CHORIA_EVENTS" "CHORIA_EVENTS" "MACHINE_ROOM_EVENTS" backend
    (some ⟨"choria.lifecycle.", "machine_room.events.lifecycle."⟩),
   .toBackend "CHORIA_MACHINE" "CHORIA_MACHINE" "MACHINE_ROOM_EVENTS" backend
    (some ⟨"choria.machine.", "machine_room.events.machine."⟩),
   { name := "KV_CONFIG"
     sourceStream := "KV_CONFIG"
     targetStream := "KV_CONFIG"
     sourceUrl := backend
     targetUrl := localBrokerUrl
     ephemeral := true
     direction := .backendToLocal }]

/-- The topology of a site. -/
def standard (site backend stateDirectory : String) (credentials : ReplicationCredentials) :
    ReplicationTopology where
  name := site
  stateDirectory
  credentials
  jobs := standardJobs backend

/-- The credentials among a node's files. -/
def credentialsOf (paths : RuntimePaths) : ReplicationCredentials where
  seedFile := paths.serverSeedFile
  tokenFile := paths.serverTokenFile
  collective := defaultCollective

/-- The topology that a configuration describes; it must name the backend and the site. -/
def ofConfig (c : Config) (paths : RuntimePaths) : Except Error ReplicationTopology :=
  let backend := c.option Config.sourceHostOption ""
  let site := c.option Config.siteOption ""
  if backend.isEmpty then
    .error (.missingTopologyConfig (Config.sourceHostOption ++ " is required"))
  else if site.isEmpty then
    .error (.missingTopologyConfig (Config.siteOption ++ " is required"))
  else .ok (standard site backend paths.replicationStateDirectory (credentialsOf paths))

/-- The job with a name. -/
def job? (t : ReplicationTopology) (name : String) : Option ReplicationJob :=
  t.jobs.find? fun j => j.name == name

/-- The first field of a job that must not be empty but is. -/
def emptyField? (j : ReplicationJob) : Option String :=
  if j.sourceStream.isEmpty then some "source stream"
  else if j.targetStream.isEmpty then some "target stream"
  else if j.sourceUrl.isEmpty then some "source url"
  else if j.targetUrl.isEmpty then some "target url"
  else none

/-- What is wrong with a job that follows jobs with the given names. -/
def fault? (seen : List String) (j : ReplicationJob) : Option String :=
  if j.name.isEmpty then some "job with empty name"
  else if seen.contains j.name then some ("duplicate job name " ++ j.name)
  else
    match emptyField? j with
    | some field => some ("job " ++ j.name ++ " has no " ++ field)
    | none =>
      if j.localUrl ≠ localBrokerUrl then
        some ("job " ++ j.name ++ " must use " ++ localBrokerUrl ++ " on its local side, got "
          ++ j.localUrl)
      else
        match j.subjectRule with
        | some r =>
          if r.targetPrefix.toList.getLast? = some '.' then none
          else
            some ("job " ++ j.name
              ++ " target prefix must be a non-empty subject prefix ending in '.'")
        | none => none

/-- What is wrong with the first job that has a fault. -/
def firstFault? (seen : List String) : List ReplicationJob → Option String
  | [] => none
  | j :: rest =>
    match fault? seen j with
    | some fault => some fault
    | none => firstFault? (j.name :: seen) rest

/-- Checks that the jobs fit together. -/
def validate (t : ReplicationTopology) : Except Error Unit :=
  if t.name.isEmpty then .error (.invalidTopology "replicator name is empty")
  else if t.jobs.isEmpty then .error (.invalidTopology "no jobs defined")
  else
    match firstFault? [] t.jobs with
    | some fault => .error (.invalidTopology fault)
    | none => .ok ()

/-- Where a job keeps its cursor. -/
def cursorPath (t : ReplicationTopology) (j : ReplicationJob) : String :=
  Path.join (Path.join t.stateDirectory t.name) (j.name ++ ".json")

/-- The topology as a document. -/
def toJson (t : ReplicationTopology) : Json :=
  .ofMembers
    [("name", t.name),
     ("state_directory", t.stateDirectory),
     ("credentials", .ofMembers
      [("seed_file", t.credentials.seedFile),
       ("jwt_file", t.credentials.tokenFile),
       ("collective", t.credentials.collective)]),
     ("jobs", .ofList ReplicationJob.toJson t.jobs)]

end ReplicationTopology

end EdgeNode
