import EdgeNode.Defaults
import EdgeNode.Json.Value
/-!
# Replication jobs

A job copies the messages of one stream to a stream on another broker.  On the way it may replace
what the subjects start with.
-/

namespace EdgeNode

/-- A rule that replaces the start of a subject. -/
structure SubjectRule where
  /-- What is taken off the front, where it stands there. -/
  removePrefix : String
  /-- What is put in front. -/
  targetPrefix : String
deriving DecidableEq, Repr

namespace SubjectRule

/-- The characters behind a given start, or all of them where they start otherwise. -/
def stripStart : List Char → List Char → List Char
  | start, cs => if start.isPrefixOf cs then cs.drop start.length else cs

/-- The subject on the target. -/
def apply (r : SubjectRule) (subject : String) : String :=
  r.targetPrefix ++ String.ofList (stripStart r.removePrefix.toList subject.toList)

/-- The rule as a document. -/
def toJson (r : SubjectRule) : Json :=
  .ofMembers [("remove_prefix", r.removePrefix), ("target_prefix", r.targetPrefix)]

end SubjectRule

/-- Which way a job copies. -/
inductive Direction where
  /-- From the embedded broker to the backend. -/
  | localToBackend
  /-- From the backend to the embedded broker. -/
  | backendToLocal
deriving DecidableEq, Repr

/-- The name of a direction. -/
def Direction.name : Direction → String
  | .localToBackend => "local_to_backend"
  | .backendToLocal => "backend_to_local"

/-- A job. -/
structure ReplicationJob where
  /-- Its name. -/
  name : String
  /-- The stream read from. -/
  sourceStream : String
  /-- The stream written to. -/
  targetStream : String
  /-- The broker read from. -/
  sourceUrl : String
  /-- The broker written to. -/
  targetUrl : String
  /-- The rule for subjects. -/
  subjectRule : Option SubjectRule := none
  /-- Whether every run starts again from the first message. -/
  ephemeral : Bool := false
  /-- Whether the target stream is left to others to create. -/
  noTargetCreate : Bool := true
  /-- Which way it copies. -/
  direction : Direction := .localToBackend
deriving DecidableEq, Repr

namespace ReplicationJob

/-- The subject on the target for a subject of the source. -/
def targetSubject (j : ReplicationJob) (subject : String) : String :=
  match j.subjectRule with
  | some r => r.apply subject
  | none => subject

/-- The broker on the node's own side. -/
def localUrl (j : ReplicationJob) : String :=
  match j.direction with
  | .localToBackend => j.sourceUrl
  | .backendToLocal => j.targetUrl

/-- A job from the embedded broker to the backend. -/
def toBackend (name source target backend : String) (subjectRule : Option SubjectRule) :
    ReplicationJob where
  name
  sourceStream := source
  targetStream := target
  sourceUrl := localBrokerUrl
  targetUrl := backend
  subjectRule

/-- The job as a document. -/
def toJson (j : ReplicationJob) : Json :=
  .ofMembers
    [("name", j.name),
     ("source_stream", j.sourceStream),
     ("target_stream", j.targetStream),
     ("source_url", j.sourceUrl),
     ("target_url", j.targetUrl),
     ("rewrite", .ofOption SubjectRule.toJson j.subjectRule),
     ("ephemeral", j.ephemeral),
     ("no_target_create", j.noTargetCreate),
     ("direction", j.direction.name)]

end ReplicationJob

/-- What is known of a job from outside. -/
inductive JobState where
  /-- It has not begun. -/
  | pending
  /-- It runs. -/
  | running
  /-- It ended well. -/
  | stopped
  /-- It ended with an error or crashed. -/
  | failed (reason : String)
deriving DecidableEq, Repr

namespace JobState

/-- A state in words. -/
def describe : JobState → String
  | .pending => "pending"
  | .running => "running"
  | .stopped => "stopped"
  | .failed reason => "failed: " ++ reason

/-- A state as a document. -/
def toJson : JobState → Json
  | .pending => "Pending"
  | .running => "Running"
  | .stopped => "Stopped"
  | .failed reason => .ofMembers [("Failed", reason)]

/-- Whether the job has ended. -/
def isTerminal : JobState → Bool
  | .stopped => true
  | .failed _ => true
  | _ => false

end JobState

end EdgeNode
