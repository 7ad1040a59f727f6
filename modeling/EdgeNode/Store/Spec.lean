import EdgeNode.Duration
import EdgeNode.Json.Value
/-!
# Streams and buckets as they are asked for

A stream captures subjects and may limit how long and how many messages it keeps.  A bucket of
keys and values is a stream whose subjects are the keys.
-/

namespace EdgeNode

/-- Where a stream keeps its messages. -/
inductive StorageKind where
  /-- On disk. -/
  | file
  /-- In memory. -/
  | memory
deriving DecidableEq, Repr

/-- The name of a kind of storage. -/
def StorageKind.name : StorageKind → String
  | .file => "file"
  | .memory => "memory"

/-- What a stream is to be like. -/
structure StreamSpec where
  /-- Its name. -/
  name : String
  /-- The patterns of the subjects it captures. -/
  subjects : List String
  /-- The age from which messages are dropped. -/
  maxAge : Option Duration := none
  /-- The most messages kept for one subject. -/
  maxPerSubject : Option Nat := none
  /-- Where messages are kept. -/
  storage : StorageKind := .file
  /-- The number of copies. -/
  replicas : Nat := 1
deriving DecidableEq, Repr

/-- The name of the stream behind a bucket. -/
def bucketStreamName (bucket : String) : String :=
  "KV_" ++ bucket

/-- What a bucket is to be like. -/
structure BucketSpec where
  /-- Its name. -/
  name : String
  /-- The most values kept for one key. -/
  history : Nat := 1
  /-- Where values are kept. -/
  storage : StorageKind := .file
deriving DecidableEq, Repr

namespace BucketSpec

/-- The name of the stream behind the bucket. -/
def streamName (b : BucketSpec) : String :=
  bucketStreamName b.name

/-- What stands in front of every key. -/
def subjectPrefix (b : BucketSpec) : String :=
  "$KV." ++ b.name ++ "."

/-- The stream behind the bucket.  At least one value is kept. -/
def backingStream (b : BucketSpec) : StreamSpec where
  name := b.streamName
  subjects := ["$KV." ++ b.name ++ ".>"]
  maxPerSubject := some (max b.history 1)
  storage := b.storage

end BucketSpec

/-- A duration as a document. -/
def Duration.toJson (d : Duration) : Json :=
  .ofMembers [("secs", d.secs), ("nanos", d.subsecNanos)]

/-- A stream's specification as a document. -/
def StreamSpec.toJson (s : StreamSpec) : Json :=
  .ofMembers
    [("name", s.name),
     ("subjects", .texts s.subjects),
     ("max_age", .ofOption Duration.toJson s.maxAge),
     ("max_msgs_per_subject", .ofOption (fun (n : Nat) => .int n) s.maxPerSubject),
     ("storage", s.storage.name),
     ("replicas", s.replicas)]

/-- A bucket's specification as a document. -/
def BucketSpec.toJson (b : BucketSpec) : Json :=
  .ofMembers [("name", b.name), ("history", b.history), ("storage", b.storage.name)]

end EdgeNode
