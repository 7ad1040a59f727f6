import EdgeNode.Proofs.Bytes
import EdgeNode.Proofs.Store.Retention
/-!
# Routing and numbering along runs

A publication goes to one stream: the first, in the byte order of the names, that captures its
subject.  That stream numbers what it accepts one after another from one on, whatever it has dropped
since; `Store.Accounted` says so of a stream and its history, and it holds after every run in which
the age limits can be applied.
-/

namespace EdgeNode.Store

variable {s : Store} {name : String} {now : Nat} {r : Request} {run : List (Nat × Request)}

/-- Every age limit that a run asks for can be applied at every instant of the run. -/
def AgesFit (run : List (Nat × Request)) : Prop :=
  ∀ e ∈ run, ∀ spec, e.2.spec? = some spec → ∀ e' ∈ run, spec.AgeFits e'.1

/-- No stream captures a subject. -/
def Uncaptured (s : Store) (subject : String) : Prop :=
  ∀ name stream, s.streams.get? name = some stream → ¬ stream.captures subject

/-- The stream of a name captures a subject, and of all that do it has the first name in byte
order. -/
def IsFirstCapturing (s : Store) (subject name : String) : Prop :=
  (∃ stream, s.streams.get? name = some stream ∧ stream.captures subject) ∧
    ∀ other stream, s.streams.get? other = some stream → stream.captures subject →
      Bytes.ofText name ≤ Bytes.ofText other

/-- The stream of a name takes a message behind those it holds, where retention may drop messages,
and every other stream is left as it was. -/
structure TakesOnly (s s' : Store) (name : String) (m : StoredMessage) : Prop where
  taken : ∃ stream stream', s.streams.get? name = some stream ∧
    s'.streams.get? name = some stream' ∧ stream'.spec = stream.spec ∧
    stream'.lastSequence = m.sequence ∧ stream'.messages.Sublist (stream.messages ++ [m]) ∧
    (stream.spec.maxPerSubject ≠ some 0 → m ∈ stream'.messages)
  others : ∀ other, other ≠ name → s'.streams.get? other = s.streams.get? other
  bus : s'.bus = s.bus

/-- What a publication comes to in a store whose streams have the given histories. -/
structure Routes (s : Store) (now : Nat) (subject : String) (payload : Bytes)
    (history : String → List StoredMessage) : Prop where
  refused : (s.publish now subject payload).1 = .error (.noMatchingStream subject) ↔
    s.Uncaptured subject
  untouched : s.Uncaptured subject → (s.publish now subject payload).2 = s
  taken : ¬ s.Uncaptured subject → ∃ name, s.IsFirstCapturing subject name ∧
    (s.publish now subject payload).1 = .ok ((history name).length + 1) ∧
    TakesOnly s (s.publish now subject payload).2 name
      { sequence := (history name).length + 1, subject, payload, published := now }

/-! ### A stream and its history -/

/-- What a run has made of the stream of a name: it is as it was asked for, it is sound, and its
history is numbered from one on up to its last number. -/
structure Accounted (run : List (Nat × Request)) (name : String) (stream : Stream)
    (history : List StoredMessage) : Prop where
  named : stream.spec.name = name
  asked : ∃ e ∈ run, e.2.spec? = some stream.spec
  sound : stream.Sound
  numbered : history.map StoredMessage.sequence = List.range' 1 stream.lastSequence

lemma AgesFit.earlier {before : List (Nat × Request)} (h : AgesFit run)
    (hpart : before <+: run) : AgesFit before :=
  fun e he spec hspec e' he' => h e (hpart.mem he) spec hspec e' (hpart.mem he')

namespace Accounted

variable {stream stream' : Stream} {history : List StoredMessage}

lemma length_history (h : Accounted run name stream history) :
    history.length = stream.lastSequence := by
  have hlength := congrArg List.length h.numbered
  rwa [List.length_map, List.length_range'] at hlength

lemma ageFits {e : Nat × Request} (h : Accounted run name stream history)
    (hages : AgesFit (run ++ [e])) : stream.spec.AgeFits e.1 := by
  obtain ⟨e', he', hasked⟩ := h.asked
  exact hages e' (List.mem_append_left _ he') _ hasked e (by simp)

lemma of_grows {e : Nat × Request} (h : Accounted run name stream history)
    (hgrows : stream.Grows stream') (hsound : stream'.Sound)
    (hlast : stream'.lastSequence = stream.lastSequence) :
    Accounted (run ++ [e]) name stream' history where
  named := by rw [hgrows.spec_eq, h.named]
  asked := by
    obtain ⟨e', he', hasked⟩ := h.asked
    exact ⟨e', List.mem_append_left _ he', hgrows.spec_eq ▸ hasked⟩
  sound := hsound
  numbered := by rw [hlast, h.numbered]

lemma append {subject : String} {payload : Bytes} {number : Nat}
    (h : Accounted run name stream history) (hcap : stream.captures subject)
    (happend : stream.append subject payload now = (some number, stream')) :
    Accounted (run ++ [(now, r)]) name stream'
      (history ++ [{ sequence := number, subject, payload, published := now }]) where
  named := by rw [(Stream.Grows.append happend).spec_eq, h.named]
  asked := by
    obtain ⟨e', he', hasked⟩ := h.asked
    exact ⟨e', List.mem_append_left _ he', (Stream.Grows.append happend).spec_eq ▸ hasked⟩
  sound := h.sound.append hcap happend
  numbered := by
    have hlast : stream'.lastSequence = stream.lastSequence + 1 := by
      rw [← Stream.append_lastSequence stream subject payload now, happend]
    rw [List.map_append, h.numbered, hlast, List.range'_1_concat, Stream.append_eq_some happend]
    simp [Nat.add_comm]

end Accounted

/-- After a run whose age limits can be applied every stream is accounted for. -/
theorem accounted_run (hages : AgesFit run) {stream : Stream}
    (hstream : (serveAll {} run).streams.get? name = some stream) :
    Accounted run name stream (accepted {} name run) := by
  refine history_induction name
    (motive := fun run stream? history => AgesFit run → (stream? = none → history = []) ∧
      ∀ stream, stream? = some stream → Accounted run name stream history)
    (fun _ => ⟨fun _ => rfl, fun _ h => by contradiction⟩) ?_ run hages |>.2 stream hstream
  intro run now r stream? stream?' history arrived ih hchange hages
  obtain ⟨hnone, hsome⟩ := ih (hages.earlier (List.prefix_append _ _))
  cases hchange with
  | same _ =>
    rw [List.append_nil]
    exact ⟨hnone, fun stream h => (hsome stream h).of_grows (.refl _) (hsome stream h).sound rfl⟩
  | created hname hasked =>
    rw [hnone rfl]
    refine ⟨fun _ => rfl, fun stream h => ?_⟩
    obtain rfl := Option.some.inj h
    exact ⟨hname, ⟨(now, r), by simp, hasked⟩, .empty _, rfl⟩
  | looked hlook =>
    refine ⟨fun h => by contradiction, fun stream h => ?_⟩
    obtain rfl := Option.some.inj h
    have hold := hsome _ rfl
    rw [List.append_nil]
    exact hold.of_grows (.expire? hlook) (hold.sound.expire? hlook)
      (Stream.expire?_eq_some hlook).2.1
  | balked hlook =>
    rw [Stream.expire?_of_ageFits ((hsome _ rfl).ageFits hages)] at hlook
    contradiction
  | appended hcap happend =>
    refine ⟨fun h => by contradiction, fun stream h => ?_⟩
    obtain rfl := Option.some.inj h
    exact (hsome _ rfl).append hcap happend
  | choked _ happend =>
    rw [Stream.append_of_ageFits ((hsome _ rfl).ageFits hages)] at happend
    exact absurd (congrArg Prod.fst happend) (by simp)

/-! ### One publication -/

lemma uncaptured_iff (hs : s.streams.Sorted) (subject : String) :
    s.Uncaptured subject ↔ s.route? subject = none := by
  rw [route?, List.find?_eq_none]
  constructor
  · intro h e he
    exact h e.1 e.2 ((Keyed.Sorted.mem_iff hs).1 he)
  · intro h name stream hstream
    exact h (name, stream) ((Keyed.Sorted.mem_iff hs).2 hstream)

/-- The stream that a subject is routed to is the first that captures it. -/
lemma isFirstCapturing_of_route? {subject : String} {stream : Stream} (hs : s.streams.Sorted)
    (h : s.route? subject = some (name, stream)) : s.IsFirstCapturing subject name := by
  obtain ⟨hname, hcap, hfirst⟩ := (Keyed.Sorted.find?_eq_some_iff hs).1 h
  exact ⟨⟨stream, hname, hcap⟩, fun other stream' hother hcap' =>
    Bytes.ofText_le_iff.2 (hfirst other stream' hother hcap')⟩

lemma mem_keptBy_concat {keep : List StoredMessage → StoredMessage → Bool} {m : StoredMessage}
    (h : keep [] m) (l : List StoredMessage) : m ∈ keptBy keep (l ++ [m]) := by
  induction l with
  | nil => simp [keptBy, h]
  | cons a l ih =>
    rw [List.cons_append, keptBy]
    split
    · exact List.mem_cons_of_mem _ ih
    · exact ih

/-- Looking at a stream keeps what is no older than the clock. -/
lemma mem_expire? {stream stream' : Stream} {m : StoredMessage}
    (h : stream.expire? now = some stream') (hm : m ∈ stream.messages) (hnow : now ≤ m.published) :
    m ∈ stream'.messages := by
  unfold Stream.expire? at h
  split at h
  · obtain rfl := Option.some.inj h
    exact hm
  · split at h
    · obtain rfl := Option.some.inj h
      exact hm
    · split at h
      · contradiction
      · obtain rfl := Option.some.inj h
        exact List.mem_filter.2 ⟨hm, by simpa using hnow.trans (Nat.le_add_right _ _)⟩

/-- A stream that has room for one message on a subject keeps the newest, be it answered or not. -/
lemma incoming_mem_append {stream : Stream} (hlimit : stream.spec.maxPerSubject ≠ some 0)
    (subject : String) (payload : Bytes) :
    stream.incoming subject payload now ∈ (stream.append subject payload now).2.messages := by
  have hroom : stream.spec.hasRoom 0 := by
    unfold StreamSpec.hasRoom
    cases hmax : stream.spec.maxPerSubject with
    | none => rfl
    | some limit =>
      have hpos : limit ≠ 0 := fun h => hlimit (hmax.trans (congrArg some h))
      simpa using Nat.pos_of_ne_zero hpos
  have htrim : stream.incoming subject payload now
      ∈ ((stream.push subject payload now).trim subject).messages := by
    rw [Stream.trim_messages]
    refine mem_keptBy_concat ?_ _
    rw [StreamSpec.staysIn, Bool.or_eq_true]
    exact .inr hroom
  unfold Stream.append
  simp only
  split
  · next hlook => exact mem_expire? hlook htrim (Nat.le_refl _)
  · exact htrim

/-- What becomes of the streams when one of them takes a message. -/
lemma takesOnly_publish {stream : Stream} (hname : s.streams.get? name = some stream)
    (subject : String) (payload : Bytes) :
    TakesOnly s (s.setStream name (stream.append subject payload now).2) name
      (stream.incoming subject payload now) where
  taken := by
    refine ⟨stream, _, hname, ?_, Stream.append_spec .., Stream.append_lastSequence ..,
      Stream.append_messages_sublist .., fun hlimit => incoming_mem_append hlimit _ _⟩
    rw [get?_setStream, if_pos rfl, hname]
    rfl
  others other hne := by rw [get?_setStream, if_neg (Ne.symm hne)]
  bus := rfl

/-- What a publication comes to when every stream is accounted for. -/
lemma routes_of_accounted {history : String → List StoredMessage} {subject : String}
    {payload : Bytes} (hs : s.streams.Sorted)
    (haccounted : ∀ name stream, s.streams.get? name = some stream →
      Accounted run name stream (history name))
    (hages : AgesFit (run ++ [(now, .publish subject payload)])) :
    Routes s now subject payload history := by
  cases hroute : s.route? subject with
  | none =>
    have hfree := (uncaptured_iff hs subject).2 hroute
    have hanswer : s.publish now subject payload = (.error (.noMatchingStream subject), s) := by
      simp only [publish, hroute]
    refine ⟨?_, fun _ => by rw [hanswer], fun h => absurd hfree h⟩
    rw [hanswer]
    exact ⟨fun _ => hfree, fun _ => rfl⟩
  | some e =>
    obtain ⟨name, stream⟩ := e
    have hfirst := isFirstCapturing_of_route? hs hroute
    obtain ⟨hname, -, -⟩ := (Keyed.Sorted.find?_eq_some_iff hs).1 hroute
    have hcaptured : ¬ s.Uncaptured subject := by
      rw [uncaptured_iff hs, hroute]
      exact Option.some_ne_none _
    have hstream := haccounted name stream hname
    have hfits := hstream.ageFits hages
    have hanswer : s.publish now subject payload = (.ok (stream.lastSequence + 1),
        s.setStream name (stream.append subject payload now).2) := by
      rw [publish, hroute]
      dsimp only
      rw [Stream.append_of_ageFits hfits]
    rw [← hstream.length_history] at hanswer
    refine ⟨?_, fun h => absurd h hcaptured, fun _ => ⟨name, hfirst, by rw [hanswer], ?_⟩⟩
    · rw [hanswer]
      exact ⟨fun h => by contradiction, fun h => absurd h hcaptured⟩
    · rw [hanswer, hstream.length_history]
      exact takesOnly_publish hname subject payload

/-! ### Names that are taken -/

/-- A request that would create a stream under a name that is taken is refused and changes
nothing. -/
structure Declines (s : Store) (now : Nat) (r : Request) : Prop where
  unchanged : s.serve now r = s
  createStream : ∀ spec, r = .createStream spec →
    (s.createStream spec).1 = .error (.alreadyExists spec.name)
  createBucket : ∀ spec, r = .createBucket spec →
    (s.createBucket spec).1 = .error (.alreadyExists spec.name)

lemma declines_of_has {spec : StreamSpec} (hspec : r.spec? = some spec)
    (htaken : s.streams.has spec.name) : Declines s now r := by
  cases r with
  | createStream spec' =>
    obtain rfl := Option.some.inj hspec
    have hanswer := createStream_of_has htaken
    refine ⟨by rw [serve, hanswer], fun spec h => ?_, fun spec h => by contradiction⟩
    obtain rfl := Request.createStream.inj h
    rw [hanswer]
  | createBucket bucket =>
    obtain rfl := Option.some.inj hspec
    have hanswer := createStream_of_has htaken
    refine ⟨by rw [serve, createBucket_snd, hanswer], fun spec h => by contradiction,
      fun spec h => ?_⟩
    obtain rfl := Request.createBucket.inj h
    rw [createBucket, hanswer]
  | publish | fetch | streamInfo | bucketInfo => contradiction

/-! ### Whole runs -/

/-- A stream that is there after a part of a run is there after the run. -/
lemma grows_serveAll (hs : s.streams.Sorted) (run : List (Nat × Request)) {stream : Stream}
    (h : s.streams.get? name = some stream) :
    ∃ stream', (s.serveAll run).streams.get? name = some stream' ∧ stream.Grows stream' := by
  induction run generalizing s stream with
  | nil => exact ⟨stream, h, .refl stream⟩
  | cons e run ih =>
    have hchange := change_serve hs name e.1 e.2
    rw [h] at hchange
    obtain ⟨stream', hstream', hgrows⟩ := hchange.grows
    obtain ⟨stream'', hstream'', hgrows'⟩ := ih (sorted_serve hs e.1 e.2) hstream'
    exact ⟨stream'', hstream'', hgrows.trans hgrows'⟩

/-- **Routing and numbering.**  In a run from the empty store whose age limits can be applied every
publication goes to the first stream that captures its subject and to no other, or is refused where
none does; the publications that a stream accepts are numbered from one on; a name that is taken
stays with its stream; and every stream is sound. -/
theorem routing (hages : AgesFit run) {before : List (Nat × Request)} (hbefore : before <+: run) :
    (∀ now subject payload, before ++ [(now, .publish subject payload)] <+: run →
      Routes (serveAll {} before) now subject payload fun name => accepted {} name before) ∧
    (∀ now r spec, before ++ [(now, r)] <+: run → r.spec? = some spec →
      (serveAll {} before).streams.has spec.name → Declines (serveAll {} before) now r) ∧
    (∀ name stream, (serveAll {} before).streams.get? name = some stream →
      (∃ stream', (serveAll {} run).streams.get? name = some stream' ∧
        stream'.spec = stream.spec) ∧
      stream.Sound ∧
      (accepted {} name before).map StoredMessage.sequence
        = List.range' 1 stream.lastSequence) := by
  have hsorted : (serveAll {} before).streams.Sorted := sorted_serveAll sorted_empty before
  refine ⟨fun now subject payload hpublish => ?_, fun now r spec _ => declines_of_has,
    fun name stream hstream => ?_⟩
  · refine routes_of_accounted hsorted (fun name stream hstream => ?_) (hages.earlier hpublish)
    exact accounted_run (hages.earlier hbefore) hstream
  · have haccounted := accounted_run (hages.earlier hbefore) hstream
    refine ⟨?_, haccounted.sound, haccounted.numbered⟩
    obtain ⟨rest, rfl⟩ := hbefore
    rw [serveAll_append]
    obtain ⟨stream', hstream', hgrows⟩ := grows_serveAll hsorted rest hstream
    exact ⟨stream', hstream', hgrows.spec_eq⟩

/-- Two streams that capture the same subjects, the one with the later name created first. -/
def overlappingRun : List (Nat × Request) :=
  [(1, .createStream { name := "B", subjects := ["x.*", "y"], maxPerSubject := some 1 }),
   (2, .createStream { name := "A", subjects := ["x.>"], maxAge := some ⟨5⟩ }),
   (3, .publish "x.a" [1]), (9, .publish "x.a" [2]), (10, .publish "z" [3])]

/-- The second publication is numbered two although the first message is gone by then. -/
theorem routing_overlappingRun :
    AgesFit overlappingRun ∧
      Routes (serveAll {} (overlappingRun.take 3)) 9 "x.a" [2]
        (fun name => accepted {} name (overlappingRun.take 3)) ∧
      ((serveAll {} (overlappingRun.take 3)).publish 9 "x.a" [2]).1 = .ok 2 ∧
      (((serveAll {} (overlappingRun.take 4)).streams.get? "A").map fun stream =>
        stream.messages.map StoredMessage.sequence) = some [2] := by
  have hages : AgesFit overlappingRun := by
    intro e he spec hspec e' _
    simp only [overlappingRun, List.mem_cons, List.not_mem_nil, or_false] at he
    rcases he with rfl | rfl | rfl | rfl | rfl
    · obtain rfl := Option.some.inj hspec
      exact fun age hage => by contradiction
    · obtain rfl := Option.some.inj hspec
      intro age hage
      obtain rfl := Option.some.inj hage
      have hearliest : Stream.earliest ≤ -5 := by decide
      exact ⟨by decide, by simp only; omega⟩
    all_goals contradiction
  exact ⟨hages,
    (routing hages (List.take_prefix 3 overlappingRun)).1 9 "x.a" [2] ⟨_, rfl⟩,
    by decide +kernel, by decide +kernel⟩

end EdgeNode.Store
