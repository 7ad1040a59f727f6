import EdgeNode.Broker.Config
import EdgeNode.Json.Reader
import EdgeNode.Options
import EdgeNode.Replication.Topology
import EdgeNode.Retry
import EdgeNode.Server
import EdgeNode.Topology
/-!
# Settings as documents

Streams, jobs, adapters, options and the pace of retries can be asked for in documents.  A member
that is absent or `null` has its default.
-/

namespace EdgeNode

/-- A duration: a number of milliseconds, or seconds and nanoseconds. -/
def Duration.ofJson? : Json → Option Duration
  | .int n => if n ≥ 0 then some (.ofMillis n.toNat) else none
  | .arr [s, n] => some ⟨s.nat?.getD 0 * perSecond + n.nat?.getD 0⟩
  | _ => none

/-- The duration at a key, or the given one where there is none. -/
def Json.durationAt (j : Json) (key : String) (dflt : Duration) : Duration :=
  (Duration.ofJson? (j.get key)).getD dflt

/-- A factor: a number, or the text of one. -/
def factorOf (dflt : Float) : Json → Float
  | .str s => (Decimal.readFloat? s).getD dflt
  | j => j.float?.getD dflt

/-- The pace of retries. -/
def RetryConfig.ofJson (j : Json) : RetryConfig :=
  let d : RetryConfig := {}
  { maxAttempts := j.natAt "max_attempts" d.maxAttempts
    initial := j.durationAt "initial" d.initial
    max := j.durationAt "max" d.max
    multiplier := factorOf d.multiplier (j.get "multiplier")
    warnAfter := j.natAt "warn_after" d.warnAfter }

/-- The storage at a key: in memory if it says so. -/
def StorageKind.ofJson (j : Json) : StorageKind :=
  if j.textAt "storage" "" = "memory" then .memory else .file

/-- A stream. -/
def StreamSpec.ofJson (j : Json) : StreamSpec where
  name := j.textAt "name" ""
  subjects := j.textsAt "subjects"
  maxAge := Duration.ofJson? (j.get "max_age")
  maxPerSubject := (j.get "max_msgs_per_subject").nat?
  storage := .ofJson j
  replicas := j.natAt "replicas" 1

/-- A bucket. -/
def BucketSpec.ofJson (j : Json) : BucketSpec where
  name := j.textAt "name" ""
  history := j.natAt "history" 1
  storage := .ofJson j

/-- A stream, or a bucket if its type says so. -/
def Resource.ofJson (j : Json) : Resource :=
  if j.textAt "type" "" = "bucket" then .bucket (.ofJson j) else .stream (.ofJson j)

/-- The resources of a site; the standard ones where none are listed. -/
def TopologySpec.ofJson : Json → TopologySpec
  | .arr l => ⟨l.map Resource.ofJson⟩
  | _ => .standard

/-- A data adapter, its defaults those of the registration adapter. -/
def AdapterConfig.ofJson (j : Json) : AdapterConfig :=
  let d := AdapterConfig.registration
  { d with
    name := j.textAt "name" d.name
    ingestTopic := j.textAt "ingest_topic" d.ingestTopic
    streamTopic := j.textAt "stream_topic" d.streamTopic
    streamWorkers := j.natAt "stream_workers" d.streamWorkers }

/-- A rule for subjects. -/
def SubjectRule.ofJson (j : Json) : SubjectRule where
  removePrefix := j.textAt "remove_prefix" ""
  targetPrefix := j.textAt "target_prefix" ""

/-- A direction, or the given one where none is named. -/
def Direction.ofJson (dflt : Direction) : Json → Direction
  | .str "local_to_backend" => .localToBackend
  | .str "backend_to_local" => .backendToLocal
  | _ => dflt

namespace ReplicationJob

/-- The standard job with a name. -/
def named (backend name : String) : ReplicationJob :=
  ((ReplicationTopology.standardJobs backend).find? fun j => j.name == name).getD
    (.toBackend "" "" "" "" none)

/-- A job: the name of a standard job, or a change of one. -/
def ofJson (backend : String) : Json → ReplicationJob
  | .str name => named backend name
  | j =>
    let base := named backend (j.textAt "base" "SUBMIT")
    { base with
      name := j.textAt "name" base.name
      sourceStream := j.textAt "source_stream" base.sourceStream
      targetStream := j.textAt "target_stream" base.targetStream
      sourceUrl := j.textAt "source_url" base.sourceUrl
      targetUrl := j.textAt "target_url" base.targetUrl
      ephemeral := (j.get "ephemeral").bool?.getD base.ephemeral
      direction := .ofJson base.direction (j.get "direction")
      subjectRule :=
        if j.hasAt "rewrite" then some (.ofJson (j.get "rewrite"))
        else if Keyed.has j.members "rewrite" then none
        else base.subjectRule }

end ReplicationJob

/-- The state a text tells of; any other text is why a job failed. -/
def JobState.ofText : String → JobState
  | "pending" => .pending
  | "running" => .running
  | "stopped" => .stopped
  | reason => .failed reason

/-- The collaboration of a site: the standard jobs, or those listed. -/
def ReplicationTopology.ofJson (paths : RuntimePaths) (j : Json) : ReplicationTopology :=
  let backend := j.textAt "backend" "nats://backend:4222"
  let t := standard (j.textAt "site" "dc1") backend
    (j.textAt "state_directory" paths.replicationStateDirectory) (credentialsOf paths)
  if j.hasAt "jobs" then { t with jobs := (j.get "jobs").items.map (.ofJson backend) } else t

/-- The settings of a server whose files are those of a node. -/
def ServerConfig.ofJson (paths : RuntimePaths) (j : Json) : ServerConfig where
  configFile := paths.configFile
  identity := j.textAt "identity" "n1"
  useSrvRecords := j.flagAt "use_srv_records"
  settings :=
    if j.textAt "mode" "" = "provisioning" then
      .provisioning { tokenFile := paths.provisioningTokenFile, factsFile := paths.factsFile }
    else .operational
      { seedFile := paths.serverSeedFile
        tokenFile := paths.serverTokenFile
        machinesDirectory := paths.machinesDirectory
        signerKey := String.ofList (List.replicate 64 '0')
        statusFile := paths.statusFile
        submissionSpool := paths.submissionDirectory
        submissionSpoolSize := EdgeNode.submissionSpoolSize
        registrationInterval := j.durationAt "interval" EdgeNode.registrationInterval
        registrationSplay := j.flagAt "splay"
        registration := j.textsAt "registration"
        registrationTarget := j.textAt "target" EdgeNode.registrationTarget
        collectives := [defaultCollective]
        mainCollective := defaultCollective
        factsFile := paths.factsFile }

/-- Plugins by registration key. -/
def Plugin.tableOfJson (j : Json) : Keyed Plugin :=
  Keyed.ofList (j.members.map fun (key, p) =>
    (key, { name := p.textAt "name" "", kind := .ofName (p.textAt "kind" "") }))

/-- The options of a node; a generator of further facts is no part of the document. -/
def Options.ofJson (j : Json) : Options :=
  let d : Options := {}
  { name := j.textAt "name" d.name
    contact := j.textAt "contact" d.contact
    help := j.textAt "help" d.help
    version := j.textAt "version" d.version
    signingKey := j.textAt "machine_signing_key" d.signingKey
    factsRefreshInterval := j.durationAt "facts_refresh_interval" d.factsRefreshInterval
    noStandardFacts := j.flagAt "no_standard_facts"
    noMemoryFacts := j.flagAt "no_memory_facts"
    noSwapFacts := j.flagAt "no_swap_facts"
    noCpuFacts := j.flagAt "no_cpu_facts"
    noDiskFacts := j.flagAt "no_disk_facts"
    noHostFacts := j.flagAt "no_host_facts"
    noNetworkFacts := j.flagAt "no_network_facts"
    plugins := Plugin.tableOfJson (j.get "plugins") }

end EdgeNode
