import EdgeNode.Proofs.Store.Stream
import EdgeNode.Store.Basic
import Mathlib.Data.List.Induction
/-!
# Runs of a store

A run is a list of requests, each with the instant at which it is served.  `Store.accepted` lists
what a stream accepted in the course of a run, as it was answered and whatever was dropped since.

What a request can do to the stream of a name is said once, in `Store.change_serve`: nothing, create
it, drop old messages from it, or publish to it.  What holds along runs follows by cases of it.
-/

namespace EdgeNode.Store

/-- A request to a store. -/
inductive Request where
  /-- Create a stream. -/
  | createStream (spec : StreamSpec)
  /-- Create a bucket. -/
  | createBucket (spec : BucketSpec)
  /-- Publish a message. -/
  | publish (subject : String) (payload : Bytes)
  /-- Fetch messages of a stream. -/
  | fetch (name : String) (after limit : Nat)
  /-- Ask about a stream. -/
  | streamInfo (name : String)
  /-- Ask about a bucket. -/
  | bucketInfo (name : String)
deriving DecidableEq, Repr

/-- The stream that a request asks to create. -/
def Request.spec? : Request → Option StreamSpec
  | .createStream spec => some spec
  | .createBucket spec => some spec.backingStream
  | _ => none

/-- The store after a request. -/
def serve (s : Store) (now : Nat) : Request → Store
  | .createStream spec => (s.createStream spec).2
  | .createBucket spec => (s.createBucket spec).2
  | .publish subject payload => (s.publish now subject payload).2
  | .fetch name after limit => (s.fetch now name after limit).2
  | .streamInfo name => (s.streamInfo now name).2
  | .bucketInfo name => (s.bucketInfo now name).2

/-- The store after a run. -/
def serveAll (s : Store) (run : List (Nat × Request)) : Store :=
  run.foldl (fun s e => s.serve e.1 e.2) s

/-- The name of the stream that a request publishes to or looks at. -/
def touched? (s : Store) : Request → Option String
  | .publish subject _ => (s.route? subject).map Prod.fst
  | .fetch name _ _ => some name
  | .streamInfo name => some name
  | .bucketInfo name => some (bucketStreamName name)
  | .createStream _ => none
  | .createBucket _ => none

/-- The message that a request publishes, with the name of the stream that takes it, when the
publication is answered. -/
def acceptance? (s : Store) (now : Nat) : Request → Option (String × StoredMessage)
  | .publish subject payload =>
    match s.route? subject, (s.publish now subject payload).1 with
    | some (name, _), .ok sequence => some (name, { sequence, subject, payload, published := now })
    | _, _ => none
  | _ => none

/-- The messages that the stream of a name accepts from a request, one at most. -/
def arrivals (s : Store) (name : String) (now : Nat) (r : Request) : List StoredMessage :=
  ((s.acceptance? now r).filter fun a => a.1 == name).toList.map Prod.snd

/-- The messages that the stream of a name accepts in the course of a run. -/
def accepted (s : Store) (name : String) : List (Nat × Request) → List StoredMessage
  | [] => []
  | (now, r) :: run => s.arrivals name now r ++ (s.serve now r).accepted name run

@[simp] lemma serveAll_nil (s : Store) : s.serveAll [] = s := rfl

@[simp] lemma serveAll_cons (s : Store) (now : Nat) (r : Request) (run : List (Nat × Request)) :
    s.serveAll ((now, r) :: run) = (s.serve now r).serveAll run := rfl

lemma serveAll_append (s : Store) (run run' : List (Nat × Request)) :
    s.serveAll (run ++ run') = (s.serveAll run).serveAll run' := by
  rw [serveAll, List.foldl_append]
  rfl

lemma accepted_append (s : Store) (name : String) (run run' : List (Nat × Request)) :
    s.accepted name (run ++ run')
      = s.accepted name run ++ (s.serveAll run).accepted name run' := by
  induction run generalizing s with
  | nil => rfl
  | cons e run ih =>
    obtain ⟨now, r⟩ := e
    rw [List.cons_append, accepted, accepted, ih, List.append_assoc, serveAll_cons]

lemma serveAll_concat (s : Store) (run : List (Nat × Request)) (now : Nat) (r : Request) :
    s.serveAll (run ++ [(now, r)]) = (s.serveAll run).serve now r :=
  serveAll_append ..

lemma accepted_concat (s : Store) (name : String) (run : List (Nat × Request)) (now : Nat)
    (r : Request) :
    s.accepted name (run ++ [(now, r)])
      = s.accepted name run ++ (s.serveAll run).arrivals name now r := by
  rw [accepted_append, accepted, accepted, List.append_nil]

/-! ### Requests that come to the same -/

lemma createBucket_snd (s : Store) (spec : BucketSpec) :
    (s.createBucket spec).2 = (s.createStream spec.backingStream).2 := by
  unfold createBucket
  split
  · next h => rw [h]
  · rfl

lemma createStream_of_has {s : Store} {spec : StreamSpec} (h : s.streams.has spec.name) :
    s.createStream spec = (.error (.alreadyExists spec.name), s) := by
  rw [createStream, if_pos h]

lemma bucketInfo_snd (s : Store) (now : Nat) (name : String) :
    (s.bucketInfo now name).2 = (s.streamInfo now (bucketStreamName name)).2 := by
  unfold bucketInfo
  split
  · next h => rw [h]
  · rfl

lemma fetch_snd (s : Store) (now : Nat) (name : String) (after limit : Nat) :
    (s.fetch now name after limit).2 = (s.streamInfo now name).2 := by
  unfold fetch streamInfo
  split
  · rfl
  · split <;> rfl

lemma publish_snd {s : Store} {name subject : String} {stream : Stream}
    (h : s.route? subject = some (name, stream)) (now : Nat) (payload : Bytes) :
    (s.publish now subject payload).2
      = s.setStream name (stream.append subject payload now).2 := by
  simp only [publish, h]
  split <;> next heq => rw [heq]

/-- Where the age limit can be applied, the stream that a subject is routed to answers. -/
lemma publish_fst {s : Store} {name subject : String} {stream : Stream} {now : Nat}
    (h : s.route? subject = some (name, stream)) (hfits : stream.spec.AgeFits now)
    (payload : Bytes) : (s.publish now subject payload).1 = .ok (stream.lastSequence + 1) := by
  simp only [publish, h]
  rw [Stream.append_of_ageFits hfits]

lemma publish_snd_of_eq_none {s : Store} {subject : String} (h : s.route? subject = none)
    (now : Nat) (payload : Bytes) : (s.publish now subject payload).2 = s := by
  simp only [publish, h]

/-- An answered publication is accepted. -/
lemma acceptance?_of_publish {s : Store} {now number : Nat} {subject : String} {payload : Bytes}
    (h : (s.publish now subject payload).1 = .ok number) :
    ∃ name, s.acceptance? now (.publish subject payload)
      = some (name, { sequence := number, subject, payload, published := now }) := by
  cases hroute : s.route? subject with
  | none => simp [publish, hroute] at h
  | some e => exact ⟨e.1, by simp only [acceptance?, hroute, h]⟩

lemma acceptance?_of_not_publish {s : Store} {now : Nat} {subject : String} {payload : Bytes}
    (h : ∀ number, (s.publish now subject payload).1 ≠ .ok number) :
    s.acceptance? now (.publish subject payload) = none := by
  simp only [acceptance?]
  split
  · next hanswer => exact absurd hanswer (h _)
  · rfl

/-! ### One request and one stream -/

@[simp] lemma get?_setStream (s : Store) (name other : String) (stream : Stream) :
    (s.setStream name stream).streams.get? other
      = if name = other then (s.streams.get? other).map fun _ => stream
        else s.streams.get? other :=
  Keyed.get?_modify s.streams name other fun _ => stream

/-- What a request at an instant does to the stream of a name, and what the stream accepts. -/
inductive Change (s : Store) (name : String) (now : Nat) (r : Request) :
    Option Stream → Option Stream → List StoredMessage → Prop
  /-- Nothing, unless it is a stream that is published to or looked at. -/
  | same {stream? : Option Stream} (h : s.touched? r = some name → stream? = none) :
      Change s name now r stream? stream? []
  /-- The stream is created. -/
  | created {spec : StreamSpec} (hname : spec.name = name) (hr : r.spec? = some spec) :
      Change s name now r none (some { spec }) []
  /-- The stream is looked at. -/
  | looked {stream stream' : Stream} (h : stream.expire? now = some stream') :
      Change s name now r (some stream) (some stream') []
  /-- The stream is looked at where its age limit cannot be applied. -/
  | balked {stream : Stream} (h : stream.expire? now = none) :
      Change s name now r (some stream) (some stream) []
  /-- The stream takes a message. -/
  | appended {stream stream' : Stream} {subject : String} {payload : Bytes} {number : Nat}
      (hcap : stream.captures subject)
      (h : stream.append subject payload now = (some number, stream')) :
      Change s name now r (some stream) (some stream')
        [{ sequence := number, subject, payload, published := now }]
  /-- The stream takes a message without an answer, where its age limit cannot be applied. -/
  | choked {stream stream' : Stream} {subject : String} {payload : Bytes}
      (hcap : stream.captures subject)
      (h : stream.append subject payload now = (none, stream')) :
      Change s name now r (some stream) (some stream') []

variable {s : Store} {name : String} {now : Nat}

lemma change_createStream {r : Request} {spec : StreamSpec} (hr : r.spec? = some spec)
    (htouch : s.touched? r = none) :
    Change s name now r (s.streams.get? name) ((s.createStream spec).2.streams.get? name) [] := by
  have hsame : s.touched? r = some name → s.streams.get? name = none := by simp [htouch]
  unfold createStream
  split
  · exact .same hsame
  · next hfree =>
    simp only [Keyed.get?_insert]
    split
    · next hname =>
      have hnone : s.streams.get? name = none := by
        simpa [Keyed.has, hname] using hfree
      rw [hnone]
      exact .created hname hr
    · exact .same hsame

lemma change_streamInfo {r : Request} {aim : String} (htouch : s.touched? r = some aim) :
    Change s name now r (s.streams.get? name) ((s.streamInfo now aim).2.streams.get? name) [] := by
  unfold streamInfo
  cases haim : s.streams.get? aim with
  | none =>
    refine .same fun h => ?_
    rw [htouch, Option.some.injEq] at h
    rw [← h, haim]
  | some stream =>
    dsimp only
    by_cases hname : aim = name
    · subst hname
      rw [haim]
      cases hlook : stream.expire? now with
      | none =>
        simp only [haim]
        exact .balked hlook
      | some stream' =>
        simp only [get?_setStream, if_true, haim, Option.map_some]
        exact .looked hlook
    · have hother : s.touched? r = some name → s.streams.get? name = none := fun h =>
        absurd (Option.some.inj (htouch.symm.trans h)) hname
      cases hlook : stream.expire? now with
      | none => exact .same hother
      | some stream' =>
        simp only [get?_setStream, if_neg hname]
        exact .same hother

lemma change_publish (hs : s.streams.Sorted) (subject : String) (payload : Bytes) :
    Change s name now (.publish subject payload) (s.streams.get? name)
      ((s.publish now subject payload).2.streams.get? name)
      (s.arrivals name now (.publish subject payload)) := by
  cases hroute : s.route? subject with
  | none =>
    have hanswer : s.publish now subject payload = (.error (.noMatchingStream subject), s) := by
      simp only [publish, hroute]
    have hnothing : s.arrivals name now (.publish subject payload) = [] := by
      simp only [arrivals, acceptance?, hroute]
      rfl
    rw [hanswer, hnothing]
    exact .same (by simp [touched?, hroute])
  | some e =>
    obtain ⟨aim, stream⟩ := e
    obtain ⟨haim, hcap, -⟩ := (Keyed.Sorted.find?_eq_some_iff hs).1 hroute
    have htouch : s.touched? (.publish subject payload) = some aim := by
      simp [touched?, hroute]
    cases happend : stream.append subject payload now with
    | mk number? stream' =>
      have hafter : (s.publish now subject payload).2 = s.setStream aim stream' := by
        simp only [publish, hroute, happend]
        cases number? <;> rfl
      rw [hafter, get?_setStream]
      by_cases hname : aim = name
      · subst hname
        rw [if_pos rfl, haim, Option.map_some]
        cases number? with
        | none =>
          have hnothing : s.arrivals aim now (.publish subject payload) = [] := by
            simp only [arrivals, acceptance?, hroute, publish, happend]
            rfl
          rw [hnothing]
          exact .choked hcap happend
        | some number =>
          have harrives : s.arrivals aim now (.publish subject payload)
              = [{ sequence := number, subject, payload, published := now }] := by
            simp [arrivals, acceptance?, hroute, publish, happend]
          rw [harrives]
          exact .appended hcap happend
      · have hnothing : s.arrivals name now (.publish subject payload) = [] := by
          simp only [arrivals, acceptance?, hroute, publish, happend]
          cases number? <;> simp [hname]
        rw [if_neg hname, hnothing]
        exact .same fun h => absurd (Option.some.inj (htouch.symm.trans h)) hname

/-- What a request does to the stream of a name. -/
theorem change_serve (hs : s.streams.Sorted) (name : String) (now : Nat) (r : Request) :
    Change s name now r (s.streams.get? name) ((s.serve now r).streams.get? name)
      (s.arrivals name now r) := by
  cases r with
  | createStream spec => exact change_createStream rfl rfl
  | createBucket spec =>
    rw [serve, createBucket_snd]
    exact change_createStream rfl rfl
  | publish subject payload => exact change_publish hs subject payload
  | fetch aim after limit =>
    rw [serve, fetch_snd]
    exact change_streamInfo rfl
  | streamInfo aim => exact change_streamInfo rfl
  | bucketInfo bucket =>
    rw [serve, bucketInfo_snd]
    exact change_streamInfo rfl

/-- A stream that is there stays there. -/
lemma Change.grows {r : Request} {stream : Stream} {stream?' : Option Stream}
    {arrived : List StoredMessage}
    (h : Change s name now r (some stream) stream?' arrived) :
    ∃ stream', stream?' = some stream' ∧ stream.Grows stream' := by
  cases h with
  | same _ => exact ⟨stream, rfl, .refl stream⟩
  | looked hlook => exact ⟨_, rfl, .expire? hlook⟩
  | balked _ => exact ⟨stream, rfl, .refl stream⟩
  | appended _ happend => exact ⟨_, rfl, .append happend⟩
  | choked _ happend => exact ⟨_, rfl, .append happend⟩

/-! ### The table of streams stays sorted -/

lemma sorted_setStream (hs : s.streams.Sorted) (name : String) (stream : Stream) :
    (s.setStream name stream).streams.Sorted :=
  Keyed.Sorted.modify hs name fun _ => stream

lemma sorted_createStream (hs : s.streams.Sorted) (spec : StreamSpec) :
    (s.createStream spec).2.streams.Sorted := by
  unfold createStream
  split
  · exact hs
  · exact Keyed.Sorted.insert hs _ _

lemma sorted_streamInfo (hs : s.streams.Sorted) (now : Nat) (name : String) :
    (s.streamInfo now name).2.streams.Sorted := by
  unfold streamInfo
  split
  · exact hs
  · split
    · exact hs
    · exact sorted_setStream hs _ _

lemma sorted_publish (hs : s.streams.Sorted) (now : Nat) (subject : String) (payload : Bytes) :
    (s.publish now subject payload).2.streams.Sorted := by
  unfold publish
  split
  · exact hs
  · split <;> exact sorted_setStream hs _ _

theorem sorted_serve (hs : s.streams.Sorted) (now : Nat) (r : Request) :
    (s.serve now r).streams.Sorted := by
  cases r with
  | createStream spec => exact sorted_createStream hs spec
  | createBucket spec =>
    rw [serve, createBucket_snd]
    exact sorted_createStream hs _
  | publish subject payload => exact sorted_publish hs now subject payload
  | fetch aim after limit =>
    rw [serve, fetch_snd]
    exact sorted_streamInfo hs now aim
  | streamInfo aim => exact sorted_streamInfo hs now aim
  | bucketInfo bucket =>
    rw [serve, bucketInfo_snd]
    exact sorted_streamInfo hs now _

lemma sorted_serveAll (hs : s.streams.Sorted) (run : List (Nat × Request)) :
    (s.serveAll run).streams.Sorted := by
  induction run generalizing s with
  | nil => exact hs
  | cons e run ih => exact ih (sorted_serve hs e.1 e.2)

/-! ### Runs from the empty store -/

lemma sorted_empty : ({} : Store).streams.Sorted :=
  List.Pairwise.nil

/-- What holds of the stream of a name and of its history after every run, because it holds at the
start and every change keeps it. -/
theorem history_induction (name : String) {motive : List (Nat × Request) → Option Stream →
      List StoredMessage → Prop} (start : motive [] none [])
    (step : ∀ {run now r stream? stream?' history arrived}, motive run stream? history →
      Change (serveAll {} run) name now r stream? stream?' arrived →
      motive (run ++ [(now, r)]) stream?' (history ++ arrived))
    (run : List (Nat × Request)) :
    motive run ((serveAll {} run).streams.get? name) (accepted {} name run) := by
  induction run using List.reverseRecOn with
  | nil => exact start
  | append_singleton run e ih =>
    obtain ⟨now, r⟩ := e
    rw [serveAll_concat, accepted_concat]
    exact step ih (change_serve (sorted_serveAll sorted_empty run) name now r)

/-- A stream that is not there has accepted nothing. -/
lemma accepted_of_get?_eq_none {run : List (Nat × Request)}
    (h : (serveAll {} run).streams.get? name = none) : accepted {} name run = [] := by
  revert h
  refine history_induction name
    (motive := fun _ stream? history => stream? = none → history = []) (fun _ => rfl) ?_ run
  intro run now r stream? stream?' history arrived ih hchange hnone
  cases hchange with
  | same _ => rw [ih hnone, List.append_nil]
  | created | looked | balked | appended | choked => contradiction

end EdgeNode.Store
