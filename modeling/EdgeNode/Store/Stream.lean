import EdgeNode.Bytes
import EdgeNode.Calendar
import EdgeNode.Store.Spec
import EdgeNode.Subject
/-!
# A stream and its messages

A stream numbers the messages it accepts from one on and keeps the newest of them within its
limits.  Messages are dropped when one is appended and when the stream is looked at.
-/

namespace EdgeNode

/-- A message that a stream keeps. -/
structure StoredMessage where
  /-- Its place in the stream. -/
  sequence : Nat
  /-- The subject it was published on. -/
  subject : String
  /-- Its body. -/
  payload : Bytes
  /-- When it was accepted, in nanoseconds since 1970. -/
  published : Nat
deriving DecidableEq, Repr

/-- What a stream tells about itself. -/
structure StreamInfo where
  /-- Its name. -/
  name : String
  /-- The patterns of the subjects it captures. -/
  subjects : List String
  /-- How many messages it keeps. -/
  messages : Nat
  /-- The number of the newest message it ever accepted. -/
  lastSequence : Nat
deriving DecidableEq, Repr

/-- What a stream tells about itself, as a document. -/
def StreamInfo.toJson (i : StreamInfo) : Json :=
  .ofMembers
    [("name", i.name),
     ("subjects", .texts i.subjects),
     ("messages", i.messages),
     ("last_sequence", i.lastSequence)]

/-- A stream. -/
structure Stream where
  /-- What it was asked to be. -/
  spec : StreamSpec
  /-- The messages it keeps, oldest first. -/
  messages : List StoredMessage := []
  /-- The number of the newest message it ever accepted. -/
  lastSequence : Nat := 0
deriving DecidableEq, Repr

namespace Stream

/-- What the stream tells about itself. -/
def info (s : Stream) : StreamInfo where
  name := s.spec.name
  subjects := s.spec.subjects
  messages := s.messages.length
  lastSequence := s.lastSequence

/-- Whether the stream captures a subject. -/
def captures (s : Stream) (subject : String) : Bool :=
  s.spec.subjects.any fun pattern => Subject.covers pattern subject

/-- The greatest age that counts as a limit, in nanoseconds; a greater one is no limit. -/
def maxAgeLimit : Nat := 9223372036854775807 * 1000000

/-- The earliest instant that can be named, in nanoseconds since 1970. -/
def earliest : Int :=
  Calendar.daysFromCivil (-262143) 1 1 * 86400 * 1000000000

/-- Drops the messages that are too old at an instant.  There is no answer when the limit lies so
far back that its instant cannot be named. -/
def expire? (s : Stream) (now : Nat) : Option Stream :=
  match s.spec.maxAge with
  | none => some s
  | some age =>
    if age.nanos > maxAgeLimit then some s
    else if (now : Int) - age.nanos < earliest then none
    else some { s with messages := s.messages.filter fun m => now ≤ m.published + age.nanos }

/-- Drops the first `excess` messages on a subject. -/
def dropOldest (subject : String) : Nat → List StoredMessage → List StoredMessage
  | _, [] => []
  | excess, m :: rest =>
    if excess > 0 ∧ m.subject = subject then dropOldest subject (excess - 1) rest
    else m :: dropOldest subject excess rest

/-- Keeps no more messages on a subject than the stream's limit. -/
def trim (s : Stream) (subject : String) : Stream :=
  match s.spec.maxPerSubject with
  | none => s
  | some limit =>
    let count := (s.messages.filter fun m => m.subject == subject).length
    { s with messages := dropOldest subject (count - limit) s.messages }

/-- Adds a message with the next number. -/
def push (s : Stream) (subject : String) (payload : Bytes) (now : Nat) : Stream :=
  { s with
    lastSequence := s.lastSequence + 1
    messages := s.messages ++
      [{ sequence := s.lastSequence + 1, subject, payload, published := now }] }

/-- Accepts a message and drops what exceeds the limits.  Where the age limit cannot be applied the
message stays, and there is no answer. -/
def append (s : Stream) (subject : String) (payload : Bytes) (now : Nat) : Option Nat × Stream :=
  let kept := (s.push subject payload now).trim subject
  match kept.expire? now with
  | some s => (some s.lastSequence, s)
  | none => (none, kept)

/-- The first `limit` messages numbered above `after`. -/
def since (s : Stream) (after limit : Nat) : List StoredMessage :=
  (s.messages.filter fun m => m.sequence > after).take limit

end Stream

end EdgeNode
