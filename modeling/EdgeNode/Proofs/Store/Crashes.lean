import EdgeNode.Proofs.Store.Routing
/-!
# Requests that crash

To drop old messages the age limit of a stream is subtracted from the clock.  A limit beyond
`Stream.maxAgeLimit` counts as none, but a shorter one may still reach back beyond the earliest
instant that can be named, and no stream is refused for that.  `Store.crash_iff_overreached` says
that a request crashes on such a stream and nowhere else, and that a request which is not answered
with a value leaves the store as it was, except for a publication that crashes: by then the stream
has taken the message.
-/

namespace EdgeNode

/-- The age limit counts, and it reaches back beyond the earliest instant that can be named. -/
def StreamSpec.Overreaches (s : StreamSpec) (now : Nat) : Prop :=
  ∃ age, s.maxAge = some age ∧ age.nanos ≤ Stream.maxAgeLimit ∧
    (now : Int) - age.nanos < Stream.earliest

namespace Stream

variable {s : Stream} {now : Nat}

lemma expire?_eq_none_iff : s.expire? now = none ↔ s.spec.Overreaches now := by
  unfold expire? StreamSpec.Overreaches
  cases s.spec.maxAge with
  | none => simp
  | some age =>
    dsimp only
    constructor
    · intro h
      split at h
      · contradiction
      · next hcounts =>
        split at h
        · next hfar => exact ⟨age, rfl, Nat.not_lt.1 hcounts, hfar⟩
        · contradiction
    · rintro ⟨age', hage, hcounts, hfar⟩
      obtain rfl := Option.some.inj hage
      rw [if_neg (Nat.not_lt.2 hcounts), if_pos hfar]

/-- A publication is not answered just when the age limit overreaches: the stream is looked at
after it has taken the message. -/
lemma append_fst_eq_none_iff (subject : String) (payload : Bytes) :
    (s.append subject payload now).1 = none ↔ s.spec.Overreaches now := by
  have hspec : ((s.push subject payload now).trim subject).spec = s.spec := trim_spec _ _
  rw [← hspec, ← expire?_eq_none_iff]
  unfold append
  dsimp only
  split
  · next hlook => simp [hlook]
  · next hlook => simp [hlook]

end Stream

namespace Store

variable {s : Store} {name : String} {now : Nat} {r : Request} {run : List (Nat × Request)}

/-- How a request is answered, whatever the value. -/
def answer (s : Store) (now : Nat) : Request → Outcome StoreError Unit
  | .createStream spec => (Outcome.ofExcept (s.createStream spec).1).map fun _ => ()
  | .createBucket spec => (Outcome.ofExcept (s.createBucket spec).1).map fun _ => ()
  | .publish subject payload => (s.publish now subject payload).1.map fun _ => ()
  | .fetch name after limit => (s.fetch now name after limit).1.map fun _ => ()
  | .streamInfo name => (s.streamInfo now name).1.map fun _ => ()
  | .bucketInfo name => (s.bucketInfo now name).1.map fun _ => ()

/-- The request publishes to a stream, or looks at one, whose age limit overreaches. -/
def Overreached (s : Store) (now : Nat) (r : Request) : Prop :=
  ∃ name stream, s.touched? r = some name ∧ s.streams.get? name = some stream ∧
    stream.spec.Overreaches now

/-- What a request that is not answered with a value leaves of a store. -/
structure LeftBy (s : Store) (now : Nat) (r : Request) : Prop where
  refused : ∀ e, s.answer now r = .error e → s.serve now r = s
  crashed : s.answer now r = .crash → (∀ subject payload, r ≠ .publish subject payload) →
    s.serve now r = s
  /-- A publication that crashes is in the stream it was routed to, and nowhere else. -/
  published : ∀ subject payload, r = .publish subject payload → s.answer now r = .crash →
    ∃ name stream, s.IsFirstCapturing subject name ∧ s.streams.get? name = some stream ∧
      TakesOnly s (s.serve now r) name (stream.incoming subject payload now)

/-- How a request to a store ends, and what it leaves of the store where it does not succeed. -/
structure Ends (s : Store) (now : Nat) (r : Request) : Prop where
  crash_iff : s.answer now r = .crash ↔ s.Overreached now r
  left : s.LeftBy now r

/-! ### Requests of each kind -/

lemma ofExcept_map_ne_crash {ε α : Type} (x : Except ε α) :
    (Outcome.ofExcept x).map (fun _ => ()) ≠ .crash := by
  cases x <;> simp [Outcome.ofExcept, Outcome.map]

/-- A request that creates a stream never crashes, and creates none where it is refused. -/
lemma ends_of_spec? {spec : StreamSpec} (hr : r.spec? = some spec) : s.Ends now r := by
  have htouch : s.touched? r = none := by
    cases r <;> first | rfl | contradiction
  have hanswer : s.answer now r ≠ .crash := by
    cases r with
    | createStream spec => exact ofExcept_map_ne_crash _
    | createBucket spec => exact ofExcept_map_ne_crash _
    | publish | fetch | streamInfo | bucketInfo => contradiction
  refine ⟨⟨fun h => absurd h hanswer, ?_⟩, ?_, fun h => absurd h hanswer, ?_⟩
  · rintro ⟨name, stream, haim, -⟩
    rw [htouch] at haim
    contradiction
  · intro e he
    have htaken : s.streams.has spec.name := by
      by_contra hfree
      cases r with
      | createStream spec' =>
        obtain rfl := Option.some.inj hr
        simp [answer, createStream, hfree, Outcome.ofExcept, Outcome.map] at he
      | createBucket bucket =>
        obtain rfl := Option.some.inj hr
        simp [answer, createBucket, createStream, hfree, Outcome.ofExcept, Outcome.map] at he
      | publish | fetch | streamInfo | bucketInfo => contradiction
    have hdeclines : Declines s now r := declines_of_has hr htaken
    exact hdeclines.unchanged
  · rintro subject payload rfl
    contradiction

/-- A stream that is looked at is left as it was unless there is an answer. -/
lemma streamInfo_cases (s : Store) (now : Nat) (name : String) :
    (∃ info s', s.streamInfo now name = (.ok info, s') ∧
      ∃ stream, s.streams.get? name = some stream ∧ ¬ stream.spec.Overreaches now) ∨
    (s.streamInfo now name = (.error (.notFound name), s) ∧ s.streams.get? name = none) ∨
    (s.streamInfo now name = (.crash, s) ∧
      ∃ stream, s.streams.get? name = some stream ∧ stream.spec.Overreaches now) := by
  unfold streamInfo
  cases hstream : s.streams.get? name with
  | none => exact .inr (.inl ⟨rfl, rfl⟩)
  | some stream =>
    dsimp only
    cases hlook : stream.expire? now with
    | none => exact .inr (.inr ⟨rfl, stream, rfl, Stream.expire?_eq_none_iff.1 hlook⟩)
    | some stream' =>
      refine .inl ⟨_, _, rfl, stream, rfl, fun h => ?_⟩
      rw [Stream.expire?_eq_none_iff.2 h] at hlook
      contradiction

lemma overreached_iff {aim : String} (htouch : s.touched? r = some aim) :
    s.Overreached now r ↔
      ∃ stream, s.streams.get? aim = some stream ∧ stream.spec.Overreaches now := by
  constructor
  · rintro ⟨name, stream, haim, hstream, hfar⟩
    obtain rfl := Option.some.inj (htouch.symm.trans haim)
    exact ⟨stream, hstream, hfar⟩
  · rintro ⟨stream, hstream, hfar⟩
    exact ⟨aim, stream, htouch, hstream, hfar⟩

/-- A request that looks at a stream is answered as a question about it, errors worded its own
way. -/
lemma ends_of_streamInfo {aim : String} (word : StoreError → StoreError)
    (htouch : s.touched? r = some aim) (hserve : s.serve now r = (s.streamInfo now aim).2)
    (hanswer : s.answer now r = ((s.streamInfo now aim).1.map fun _ => ()).mapError word)
    (hlooks : ∀ subject payload, r ≠ .publish subject payload) : s.Ends now r := by
  rcases streamInfo_cases s now aim with
    ⟨info, s', hlook, stream, hstream, hnear⟩ | ⟨hlook, hnone⟩ | ⟨hlook, hfar⟩
  · have hok : s.answer now r = .ok () := by rw [hanswer, hlook]; rfl
    refine ⟨?_, fun e he => ?_, fun h => ?_, fun subject payload h => absurd h (hlooks _ _)⟩
    · rw [hok, overreached_iff htouch]
      refine ⟨fun h => by contradiction, ?_⟩
      rintro ⟨stream', hstream', hfar⟩
      obtain rfl := Option.some.inj (hstream.symm.trans hstream')
      exact absurd hfar hnear
    · rw [hok] at he
      contradiction
    · rw [hok] at h
      contradiction
  · have herror : s.answer now r = .error (word (.notFound aim)) := by rw [hanswer, hlook]; rfl
    have hsame : s.serve now r = s := by rw [hserve, hlook]
    refine ⟨?_, fun _ _ => hsame, fun _ _ => hsame, fun subject payload h => absurd h (hlooks _ _)⟩
    rw [herror, overreached_iff htouch]
    refine ⟨fun h => by contradiction, ?_⟩
    rintro ⟨stream, hstream, -⟩
    rw [hnone] at hstream
    contradiction
  · have hcrash : s.answer now r = .crash := by rw [hanswer, hlook]; rfl
    have hsame : s.serve now r = s := by rw [hserve, hlook]
    refine ⟨?_, fun _ _ => hsame, fun _ _ => hsame, fun subject payload h => absurd h (hlooks _ _)⟩
    rw [hcrash, overreached_iff htouch]
    exact ⟨fun _ => hfar, fun _ => rfl⟩

lemma answer_fetch (s : Store) (now : Nat) (name : String) (after limit : Nat) :
    s.answer now (.fetch name after limit) = s.answer now (.streamInfo name) := by
  rw [answer, answer, fetch, streamInfo]
  split
  · rfl
  · split <;> rfl

lemma answer_bucketInfo (s : Store) (now : Nat) (name : String) :
    s.answer now (.bucketInfo name)
      = (s.answer now (.streamInfo (bucketStreamName name))).mapError
          fun _ => .notFound name := by
  rw [answer, answer, bucketInfo]
  split
  · next h => rw [h]; rfl
  · next h =>
    cases hlook : (s.streamInfo now (bucketStreamName name)).1 with
    | ok info => rfl
    | error e => exact (h e _ (Prod.ext hlook rfl)).elim
    | crash => rfl

/-- A publication crashes once the stream that it is routed to has taken the message. -/
lemma ends_publish (hs : s.streams.Sorted) (subject : String) (payload : Bytes) :
    s.Ends now (.publish subject payload) := by
  cases hroute : s.route? subject with
  | none =>
    have herror : s.answer now (.publish subject payload) = .error (.noMatchingStream subject) := by
      rw [answer, publish, hroute]
      rfl
    have hsame : s.serve now (.publish subject payload) = s := publish_snd_of_eq_none hroute ..
    refine ⟨?_, fun _ _ => hsame, fun _ _ => hsame, fun _ _ _ h => ?_⟩
    · rw [herror]
      refine ⟨fun h => by contradiction, ?_⟩
      rintro ⟨name, stream, htouch, -⟩
      rw [touched?, hroute] at htouch
      contradiction
    · rw [herror] at h
      contradiction
  | some e =>
    obtain ⟨name, stream⟩ := e
    obtain ⟨hstream, -, -⟩ := (Keyed.Sorted.find?_eq_some_iff hs).1 hroute
    have hafter : s.serve now (.publish subject payload)
        = s.setStream name (stream.append subject payload now).2 := publish_snd hroute ..
    have hover : s.Overreached now (.publish subject payload) ↔ stream.spec.Overreaches now := by
      have htouch : s.touched? (.publish subject payload) = some name := by
        rw [touched?, hroute]
        rfl
      simp [overreached_iff htouch, hstream]
    have hanswer : s.answer now (.publish subject payload)
        = if (stream.append subject payload now).1 = none then .crash else .ok () := by
      rw [answer, publish, hroute]
      dsimp only
      rcases happend : stream.append subject payload now with ⟨_ | number, stream'⟩ <;> rfl
    refine ⟨?_, fun e he => ?_, fun _ h => absurd rfl (h subject payload), ?_⟩
    · rw [hover, ← Stream.append_fst_eq_none_iff subject payload, hanswer]
      split <;> simp [*]
    · rw [hanswer] at he
      split at he <;> contradiction
    · intro subject' payload' hsame _
      obtain ⟨rfl, rfl⟩ := Request.publish.inj hsame
      refine ⟨name, stream, isFirstCapturing_of_route? hs hroute, hstream, ?_⟩
      rw [hafter]
      exact takesOnly_publish hstream subject payload

/-! ### Runs -/

/-- A stream is what some request of the run asked for. -/
lemma exists_spec?_of_get? {stream : Stream}
    (h : (serveAll {} run).streams.get? name = some stream) :
    ∃ e ∈ run, e.2.spec? = some stream.spec := by
  refine history_induction name (motive := fun run stream? _ => ∀ stream, stream? = some stream →
    ∃ e ∈ run, e.2.spec? = some stream.spec) (fun _ h => by contradiction) ?_ run stream h
  intro run now r stream? stream?' history arrived ih hchange stream hstream
  have hearlier : ∀ old, stream? = some old → stream.spec = old.spec →
      ∃ e ∈ run ++ [(now, r)], e.2.spec? = some stream.spec := by
    intro old hold hspec
    obtain ⟨e, he, hasked⟩ := ih old hold
    exact ⟨e, List.mem_append_left _ he, hspec ▸ hasked⟩
  cases hold : stream? with
  | none =>
    rw [hold] at hchange
    generalize stream?' = after at hchange hstream
    cases hchange with
    | same _ => contradiction
    | created _ hasked =>
      obtain rfl := Option.some.inj hstream
      exact ⟨(now, r), by simp, hasked⟩
  | some old =>
    rw [hold] at hchange
    obtain ⟨stream', hafter, hgrows⟩ := hchange.grows
    obtain rfl := Option.some.inj (hstream.symm.trans hafter)
    exact hearlier old hold hgrows.spec_eq

/-- **No other crashes.**  After every run from the empty store a request crashes just when the
stream that it publishes to or looks at was asked for with an age limit that overreaches at that
instant.  A request that is refused changes nothing, and one that crashes changes nothing either
unless it is a publication, which the stream it was routed to has then taken. -/
theorem crash_iff_overreached (run : List (Nat × Request)) (now : Nat) (r : Request) :
    (serveAll {} run).Ends now r ∧
      ((serveAll {} run).Overreached now r →
        ∃ e ∈ run, ∃ spec, e.2.spec? = some spec ∧ spec.Overreaches now) := by
  have hsorted : (serveAll {} run).streams.Sorted := sorted_serveAll sorted_empty run
  constructor
  · cases r with
    | createStream spec => exact ends_of_spec? rfl
    | createBucket spec => exact ends_of_spec? rfl
    | publish subject payload => exact ends_publish hsorted subject payload
    | fetch name after limit =>
      refine ends_of_streamInfo id rfl (fetch_snd ..) ?_ fun _ _ h => by contradiction
      rw [answer_fetch, answer]
      cases ((serveAll {} run).streamInfo now name).1 <;> rfl
    | streamInfo name =>
      refine ends_of_streamInfo id rfl rfl ?_ fun _ _ h => by contradiction
      rw [answer]
      cases ((serveAll {} run).streamInfo now name).1 <;> rfl
    | bucketInfo name =>
      exact ends_of_streamInfo _ rfl (bucketInfo_snd ..) (answer_bucketInfo ..)
        fun _ _ h => by contradiction
  · rintro ⟨name, stream, -, hstream, hfar⟩
    obtain ⟨e, he, hasked⟩ := exists_spec?_of_get? hstream
    exact ⟨e, he, stream.spec, hasked, hfar⟩

/-- An age limit of about 285000 years, which counts. -/
def overlongSpec : StreamSpec where
  name := "OLD"
  subjects := ["old.>"]
  maxAge := some (.ofSecs 9000000000000)

example :
    let s := serveAll {} [(0, .createStream overlongSpec)]
    s.answer 1 (.publish "old.a" [1]) = .crash ∧
      (s.serve 1 (.publish "old.a" [1])).streams.get? "OLD"
        = some { spec := overlongSpec, messages := [⟨1, "old.a", [1], 1⟩], lastSequence := 1 } := by
  decide +kernel

end Store

end EdgeNode
