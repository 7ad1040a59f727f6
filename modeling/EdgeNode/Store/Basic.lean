import EdgeNode.Error
import EdgeNode.Keyed
import EdgeNode.Outcome
import EdgeNode.Store.Bus
import EdgeNode.Store.Stream
/-!
# The stream store

A store holds streams by name and routes a published message to the first stream, by name, that
captures its subject.  Beside the streams it has a core bus.
-/

namespace EdgeNode

/-- A stream store. -/
structure Store where
  /-- The streams by name. -/
  streams : Keyed Stream := []
  /-- The core bus. -/
  bus : Bus := {}
deriving DecidableEq, Repr

namespace Store

/-- The store with a stream changed. -/
def setStream (s : Store) (name : String) (stream : Stream) : Store :=
  { s with streams := s.streams.modify name fun _ => stream }

/-- Creates a stream unless its name is taken. -/
def createStream (s : Store) (spec : StreamSpec) : Except StoreError StreamInfo × Store :=
  if s.streams.has spec.name then (.error (.alreadyExists spec.name), s)
  else
    let stream : Stream := { spec }
    (.ok stream.info, { s with streams := s.streams.insert spec.name stream })

/-- Creates the stream behind a bucket unless it is there. -/
def createBucket (s : Store) (spec : BucketSpec) : Except StoreError StreamInfo × Store :=
  match s.createStream spec.backingStream with
  | (.error (.alreadyExists _), s) => (.error (.alreadyExists spec.name), s)
  | answer => answer

/-- What a stream tells about itself, old messages dropped. -/
def streamInfo (s : Store) (now : Nat) (name : String) : Outcome StoreError StreamInfo × Store :=
  match s.streams.get? name with
  | none => (.error (.notFound name), s)
  | some stream =>
    match stream.expire? now with
    | none => (.crash, s)
    | some stream => (.ok stream.info, s.setStream name stream)

/-- What the stream behind a bucket tells about itself. -/
def bucketInfo (s : Store) (now : Nat) (name : String) : Outcome StoreError StreamInfo × Store :=
  match s.streamInfo now (bucketStreamName name) with
  | (.error _, s) => (.error (.notFound name), s)
  | answer => answer

/-- The stream that a subject is routed to. -/
def route? (s : Store) (subject : String) : Option (String × Stream) :=
  s.streams.find? fun e => e.2.captures subject

/-- Publishes a message to the stream that captures its subject. -/
def publish (s : Store) (now : Nat) (subject : String) (payload : Bytes) :
    Outcome StoreError Nat × Store :=
  match s.route? subject with
  | none => (.error (.noMatchingStream subject), s)
  | some (name, stream) =>
    match stream.append subject payload now with
    | (some sequence, stream) => (.ok sequence, s.setStream name stream)
    | (none, stream) => (.crash, s.setStream name stream)

/-- The messages of a stream numbered above `after`, at most `limit` of them. -/
def fetch (s : Store) (now : Nat) (name : String) (after limit : Nat) :
    Outcome StoreError (List StoredMessage) × Store :=
  match s.streams.get? name with
  | none => (.error (.notFound name), s)
  | some stream =>
    match stream.expire? now with
    | none => (.crash, s)
    | some stream => (.ok (stream.since after limit), s.setStream name stream)

/-- The names of the streams. -/
def streamNames (s : Store) : List String :=
  s.streams.keys

/-- Publishes on the core bus; answers how many subscribers there are. -/
def publishCore (s : Store) (m : CoreMessage) : Nat × Store :=
  match s.bus.publish m with
  | (count, bus) => (count, { s with bus })

end Store

/-- Stores by the address of their broker.  An address that was never used has an empty store. -/
abbrev Network := Keyed Store

namespace Network

/-- The store at an address. -/
def store (n : Network) (url : String) : Store :=
  (Keyed.get? n url).getD {}

/-- The network with another store at an address. -/
def setStore (n : Network) (url : String) (s : Store) : Network :=
  Keyed.insert n url s

end Network

end EdgeNode
