import EdgeNode.Store.Basic
/-!
# Stream topology

The bucket and the streams that a site's broker must have, in the order in which they are made.
A resource is ensured by looking it up and, if it is not found, creating it; being overtaken by
another creator is no failure.
-/

namespace EdgeNode

/-- A stream or a bucket. -/
inductive Resource where
  /-- A bucket. -/
  | bucket (spec : BucketSpec)
  /-- A stream. -/
  | stream (spec : StreamSpec)
deriving DecidableEq, Repr

namespace Resource

/-- The name of a resource. -/
def name : Resource → String
  | .bucket b => b.name
  | .stream s => s.name

/-- The name of the stream that a resource is or rests on. -/
def backingName : Resource → String
  | .bucket b => b.streamName
  | .stream s => s.name

/-- A resource in words. -/
def describe : Resource → String
  | .bucket b => "bucket " ++ b.name
  | .stream s => "stream " ++ s.name

/-- A resource as a document. -/
def toJson : Resource → Json
  | .bucket b => b.toJson.set "type" "bucket"
  | .stream s => s.toJson.set "type" "stream"

end Resource

/-- The resources of a site, in the order in which they are made. -/
structure TopologySpec where
  /-- The resources. -/
  resources : List Resource
deriving DecidableEq, Repr

namespace TopologySpec

/-- The configuration bucket, the registration stream and the submission stream. -/
def standard : TopologySpec where
  resources :=
    [.bucket { name := "CONFIG" },
     .stream
      { name := "REGISTRATION"
        subjects := ["machine_room.nodes.>"]
        maxAge := some (.ofSecs 86400)
        maxPerSubject := some 5 },
     .stream
      { name := "SUBMIT"
        subjects := ["choria.submission.in.>"]
        maxAge := some (.ofSecs 86400) }]

/-- The resources as a document. -/
def toJson (t : TopologySpec) : Json :=
  .ofMembers [("resources", .ofList Resource.toJson t.resources)]

end TopologySpec

/-- What ensuring a resource did. -/
inductive Ensured where
  /-- It was there. -/
  | existed
  /-- It was created. -/
  | created
deriving DecidableEq, Repr

/-- The name of an outcome. -/
def Ensured.name : Ensured → String
  | .existed => "Existed"
  | .created => "Created"

/-- The name of the connection over which resources are made. -/
def setupConnection : String := "stream_setup"

/-- What the answer to a lookup means: the resource is there, or it must be created. -/
def Resource.afterLookup (r : Resource) :
    Outcome StoreError StreamInfo → Outcome Error (Option Ensured)
  | .ok _ => .ok (some .existed)
  | .error (.notFound _) => .ok none
  | .error e => .error (.topology r.name e.message)
  | .crash => .crash

/-- What the answer to a creation means. -/
def Resource.afterCreate (r : Resource) :
    Except StoreError StreamInfo → Except Error Ensured
  | .ok _ => .ok .created
  | .error (.alreadyExists _) => .ok .existed
  | .error e => .error (.topology r.name e.message)

/-- Looks a resource up in a store. -/
def Store.lookup (s : Store) (now : Nat) : Resource → Outcome StoreError StreamInfo × Store
  | .bucket b => s.bucketInfo now b.name
  | .stream spec => s.streamInfo now spec.name

/-- Creates a resource in a store. -/
def Store.create (s : Store) : Resource → Except StoreError StreamInfo × Store
  | .bucket b => s.createBucket b
  | .stream spec => s.createStream spec

end EdgeNode
