import EdgeNode.Proofs.Store.Held
import EdgeNode.Proofs.Store.Retention
import EdgeNode.Proofs.Store.Specs
/-!
# The newest message on a subject

A stream without an age limit changes on a subject only when something is published there, and then
what was published is the newest message on it, if one is kept at all.

Whatever the limits of a stream are, what it drops on a subject it drops oldest first, provided
that it does not judge by dates which contradict its numbers: `Store.Orderly`.  So as long as an old
message on a subject is held, every newer one is as well.
-/

namespace EdgeNode

/-- The criterion may look at what is not behind a message, too. -/
lemma keptBy_concat (keep : List StoredMessage → StoredMessage → Bool) (l : List StoredMessage)
    (m : StoredMessage) :
    keptBy keep (l ++ [m])
      = keptBy (fun later => keep (later ++ [m])) l ++ if keep [] m then [m] else [] := by
  induction l with
  | nil => rw [List.nil_append, keptBy, keptBy, keptBy, List.nil_append]
  | cons a l ih =>
    rw [List.cons_append, keptBy, keptBy, ih]
    split <;> rfl

lemma keptBy_eq_filter (p : StoredMessage → Bool) (l : List StoredMessage) :
    keptBy (fun _ m => p m) l = l.filter p := by
  induction l with
  | nil => rfl
  | cons m l ih => rw [keptBy, List.filter_cons, ih]

lemma keptBy_sublist (keep : List StoredMessage → StoredMessage → Bool) (l : List StoredMessage) :
    (keptBy keep l).Sublist l := by
  induction l with
  | nil => exact List.Sublist.slnil
  | cons m l ih =>
    rw [keptBy]
    split
    · exact ih.cons_cons m
    · exact ih.cons m

/-! ### Oldest first -/

/-- Where an old message on a subject was kept, so was every newer one on it. -/
def OldestFirst (l l' : List StoredMessage) : Prop :=
  ∀ m ∈ l, ∀ x ∈ l, m.subject = x.subject → m.sequence < x.sequence → m ∈ l' → x ∈ l'

namespace OldestFirst

variable {l l' l'' : List StoredMessage}

lemma refl (l : List StoredMessage) : OldestFirst l l :=
  fun _ _ _ hx _ _ _ => hx

lemma trans (h : OldestFirst l l') (h' : OldestFirst l' l'') (hsub : l'' ⊆ l') :
    OldestFirst l l'' := by
  intro m hm x hx hsubject hlt hkept
  exact h' m (hsub hkept) x (h m hm x hx hsubject hlt (hsub hkept)) hsubject hlt hkept

lemma mono (h : OldestFirst l l'') (hsub : l' ⊆ l) : OldestFirst l' l'' :=
  fun m hm x hx => h m (hsub hm) x (hsub hx)

/-- A criterion that gets no stricter for later messages on a subject keeps the newest. -/
lemma keptBy {keep : List StoredMessage → StoredMessage → Bool}
    (hincreasing : l.Pairwise fun a b => a.sequence < b.sequence)
    (hkeep : ∀ before later m x, m.subject = x.subject → keep (before ++ x :: later) m →
      keep later x) :
    OldestFirst l (keptBy keep l) := by
  -- what stands behind a message that is kept
  have hbehind : ∀ (before later : List StoredMessage) {m x : StoredMessage},
      keep (before ++ later) m → x ∈ later → m.subject = x.subject →
        x ∈ EdgeNode.keptBy keep later := by
    intro before later
    induction later generalizing before with
    | nil => intro m x _ hx; contradiction
    | cons a later ih =>
      intro m x hm hx hsubject
      rw [EdgeNode.keptBy]
      rcases List.mem_cons.1 hx with rfl | hx
      · rw [if_pos (hkeep before later m x hsubject hm)]
        exact List.mem_cons_self
      · have hrest : x ∈ EdgeNode.keptBy keep later :=
          ih (before ++ [a]) (by simpa using hm) hx hsubject
        split
        · exact List.mem_cons_of_mem _ hrest
        · exact hrest
  induction l with
  | nil => intro m hm; contradiction
  | cons a l ih =>
    obtain ⟨hfirst, hrest⟩ := List.pairwise_cons.1 hincreasing
    intro m hm x hx hsubject hlt hkept
    -- the newer message is not the first
    have hx' : x ∈ l := by
      rcases List.mem_cons.1 hx with rfl | hx
      · rcases List.mem_cons.1 hm with rfl | hm
        · exact absurd hlt (Nat.lt_irrefl _)
        · exact absurd hlt (Nat.lt_asymm (hfirst m hm))
      · exact hx
    have htail : m ∈ EdgeNode.keptBy keep l → x ∈ EdgeNode.keptBy keep l := fun hkept =>
      ih hrest m ((keptBy_sublist keep l).mem hkept) x hx' hsubject hlt hkept
    rw [EdgeNode.keptBy] at hkept ⊢
    split at hkept
    · next hfirst =>
      rw [if_pos hfirst]
      refine List.mem_cons_of_mem _ ?_
      rcases List.mem_cons.1 hkept with rfl | hkept
      · exact hbehind [] l hfirst hx' hsubject
      · exact htail hkept
    · next hfirst =>
      rw [if_neg hfirst]
      exact htail hkept

end OldestFirst

namespace Stream

variable {s s' : Stream} {now : Nat} {subject : String} {payload : Bytes}

/-- The dates of the messages follow their numbers, if the stream goes by dates at all. -/
def Dated (s : Stream) : Prop :=
  s.spec.maxAge ≠ none → s.messages.Pairwise fun a b => a.published ≤ b.published

/-- No message is dated later than an instant, if the stream goes by dates at all. -/
def DatedBy (s : Stream) (now : Nat) : Prop :=
  s.spec.maxAge ≠ none → ∀ m ∈ s.messages, m.published ≤ now

lemma Dated.mono (h : s.Dated) (hspec : s'.spec = s.spec)
    (hsub : s'.messages.Sublist s.messages) : s'.Dated :=
  fun hlimited => (h (hspec ▸ hlimited)).sublist hsub

lemma Dated.push (h : s.Dated) (hnow : s.DatedBy now) : (s.push subject payload now).Dated := by
  intro hlimited
  refine List.pairwise_append.2 ⟨h hlimited, List.pairwise_singleton _ _, fun a ha b hb => ?_⟩
  obtain rfl := List.mem_singleton.1 hb
  exact hnow hlimited a ha

/-- Of two messages the newer one has the later date. -/
lemma Dated.published_le (h : s.Dated) (hs : s.Sound) (hlimited : s.spec.maxAge ≠ none)
    {m x : StoredMessage} (hm : m ∈ s.messages) (hx : x ∈ s.messages)
    (hlt : m.sequence < x.sequence) : m.published ≤ x.published := by
  obtain ⟨i, hi, rfl⟩ := List.mem_iff_getElem.1 hm
  obtain ⟨j, hj, rfl⟩ := List.mem_iff_getElem.1 hx
  have hij : i < j := by
    by_contra hge
    rcases Nat.lt_or_eq_of_le (Nat.not_lt.1 hge) with hgt | rfl
    · exact absurd hlt (Nat.lt_asymm (List.pairwise_iff_getElem.1 hs.increasing j i hj hi hgt))
    · exact absurd hlt (Nat.lt_irrefl _)
  exact List.pairwise_iff_getElem.1 (h hlimited) i j hi hj hij

lemma oldestFirst_expire? (hs : s.Sound) (hdated : s.Dated) (h : s.expire? now = some s') :
    OldestFirst s.messages s'.messages := by
  unfold expire? at h
  split at h
  · obtain rfl := Option.some.inj h
    exact .refl _
  · next age hage =>
    split at h
    · obtain rfl := Option.some.inj h
      exact .refl _
    · split at h
      · contradiction
      · obtain rfl := Option.some.inj h
        intro m hm x hx _ hlt hkept
        have hle := hdated.published_le hs (by simp [hage]) hm hx hlt
        have hyoung : now ≤ m.published + age.nanos := by simpa using (List.mem_filter.1 hkept).2
        exact List.mem_filter.2 ⟨hx, by simpa using hyoung.trans (Nat.add_le_add_right hle _)⟩

lemma oldestFirst_trim (hs : s.Sound) (subject : String) :
    OldestFirst s.messages (s.trim subject).messages := by
  rw [trim_messages]
  refine OldestFirst.keptBy hs.increasing fun before later m x hsubject hkept => ?_
  rw [StreamSpec.staysIn, Bool.or_eq_true] at hkept ⊢
  refine hkept.imp (fun hother => hsubject ▸ hother) fun hroom => ?_
  refine StreamSpec.hasRoom_of_le ?_ hroom
  -- fewer messages stand behind the newer one
  have hsuffix : later.Sublist (before ++ x :: later) :=
    (List.sublist_cons_self x later).trans (List.sublist_append_right _ _)
  exact hsuffix.countP_le

/-- What a publication drops it drops oldest first. -/
lemma oldestFirst_append (hs : s.Sound) (hdated : s.Dated) (hnow : s.DatedBy now)
    (hcap : s.captures subject) :
    OldestFirst s.messages (s.append subject payload now).2.messages := by
  have hpush : (s.push subject payload now).Sound := hs.push hcap
  have htrim := oldestFirst_trim hpush subject
  have hsub := trim_messages_sublist (s.push subject payload now) subject
  have hboth : OldestFirst (s.push subject payload now).messages
      (s.append subject payload now).2.messages := by
    unfold append
    simp only
    split
    · next hlook =>
      have hsound : ((s.push subject payload now).trim subject).Sound :=
        hpush.mono (trim_spec _ _) (trim_lastSequence _ _).ge hsub
      have hordered : ((s.push subject payload now).trim subject).Dated :=
        (hdated.push hnow).mono (trim_spec _ _) hsub
      exact htrim.trans (oldestFirst_expire? hsound hordered hlook)
        (expire?_eq_some hlook).2.2.subset
    · exact htrim
  exact hboth.mono (List.subset_append_left _ _)

lemma Dated.append (h : s.Dated) (hnow : s.DatedBy now) :
    (s.append subject payload now).2.Dated :=
  (h.push hnow).mono (append_spec ..) (append_messages_sublist ..)

end Stream

namespace Store

variable {s s' s'' : Store} {name subject : String} {now number : Nat} {payload : Bytes}
  {r : Request} {run : List (Nat × Request)}

/-- The messages on a subject that the stream of a name holds. -/
def heldOn (s : Store) (name subject : String) : List StoredMessage :=
  (s.held name).filter fun m => m.subject == subject

/-- The newest of them. -/
def newest? (s : Store) (name subject : String) : Option StoredMessage :=
  (s.heldOn name subject).getLast?

/-- The stream of a name, once it is there, drops no message for its age and keeps one at least on
every subject. -/
def Lasting (s : Store) (name : String) : Prop :=
  ∀ spec, s.spec? name = some spec → spec.maxAge = none ∧ spec.maxPerSubject ≠ some 0

/-! ### A stream without an age limit -/

lemma ageFits_of_eq_none {spec : StreamSpec} (h : spec.maxAge = none) (now : Nat) :
    spec.AgeFits now :=
  fun age hage => by rw [h] at hage; contradiction

lemma held_of_get? {stream : Stream} (h : s.streams.get? name = some stream) :
    s.held name = stream.messages := by
  rw [held, h]
  rfl

/-- What an ageless stream holds after a publication. -/
lemma append_messages_of_ageless {stream : Stream} (hage : stream.spec.maxAge = none)
    (subject : String) (payload : Bytes) (now : Nat) :
    (stream.append subject payload now).2.messages
      = keptBy (stream.spec.staysIn subject)
          (stream.messages ++ [stream.incoming subject payload now]) := by
  rw [Stream.append_messages (ageFits_of_eq_none hage now)]
  refine List.filter_eq_self.2 fun m _ => ?_
  rw [StreamSpec.isYoung, hage]
  rfl

/-- A publication on another subject changes nothing on this one. -/
lemma filter_append_of_ne {stream : Stream} (hage : stream.spec.maxAge = none) {other : String}
    (hne : other ≠ subject) :
    (stream.append other payload now).2.messages.filter (fun m => m.subject == subject)
      = stream.messages.filter fun m => m.subject == subject := by
  have hkeep : (fun later m => stream.spec.staysIn other later m && m.subject == subject)
      = fun _ (m : StoredMessage) => m.subject == subject := by
    funext later m
    by_cases hsubject : m.subject = subject
    · have hother : m.subject ≠ other := fun h => hne (h ▸ hsubject)
      simp [StreamSpec.staysIn, hother]
    · simp [hsubject]
  rw [append_messages_of_ageless hage, filter_keptBy, hkeep, keptBy_eq_filter, List.filter_append]
  simp [Stream.incoming, hne]

lemma held_createStream (s : Store) (spec : StreamSpec) (name : String) :
    (s.createStream spec).2.held name = s.held name := by
  unfold createStream
  split
  · rfl
  · next hfree =>
    rw [held, held, Keyed.get?_insert]
    split
    · next hname =>
      have hnone : s.streams.get? name = none := by simpa [Keyed.has, hname] using hfree
      rw [hnone]
      rfl
    · rfl

lemma held_setStream_of_ne {other : String} (hne : other ≠ name) (stream : Stream) :
    (s.setStream other stream).held name = s.held name := by
  rw [held, held, get?_setStream, if_neg hne]

lemma held_setStream_self {stream : Stream} (h : s.streams.get? name = some stream)
    (stream' : Stream) : (s.setStream name stream').held name = stream'.messages := by
  rw [held, get?_setStream, if_pos rfl, h]
  rfl

/-- Looking at streams drops nothing from one that goes by no age. -/
lemma held_streamInfo (hlasting : s.Lasting name) (now : Nat) (other : String) :
    (s.streamInfo now other).2.held name = s.held name := by
  unfold streamInfo
  cases hother : s.streams.get? other with
  | none => rfl
  | some stream =>
    by_cases hname : other = name
    · subst hname
      have hage : stream.spec.maxAge = none :=
        (hlasting stream.spec (by rw [spec?, hother]; rfl)).1
      have hlook : stream.expire? now = some stream := by rw [Stream.expire?, hage]
      simp only [hlook]
      rw [held_setStream_self hother, held_of_get? hother]
    · dsimp only
      split
      · rfl
      · exact held_setStream_of_ne hname _

/-- **Only publications on a subject change what an ageless stream holds on it.** -/
theorem heldOn_serve (hs : s.streams.Sorted) (hlasting : s.Lasting name)
    (hr : ∀ payload, r ≠ .publish subject payload) :
    (s.serve now r).heldOn name subject = s.heldOn name subject := by
  unfold heldOn
  cases r with
  | createStream spec => rw [serve, held_createStream]
  | createBucket spec => rw [serve, createBucket_snd, held_createStream]
  | fetch other after limit => rw [serve, fetch_snd, held_streamInfo hlasting]
  | streamInfo other => rw [serve, held_streamInfo hlasting]
  | bucketInfo bucket => rw [serve, bucketInfo_snd, held_streamInfo hlasting]
  | publish other payload =>
    have hne : other ≠ subject := fun h => hr payload (by rw [h])
    rw [serve]
    cases hroute : s.route? other with
    | none => rw [publish_snd_of_eq_none hroute]
    | some e =>
      obtain ⟨aim, stream⟩ := e
      rw [publish_snd hroute]
      by_cases hname : aim = name
      · subst hname
        have hstream := ((Keyed.Sorted.find?_eq_some_iff hs).1 hroute).1
        have hage : stream.spec.maxAge = none :=
          (hlasting stream.spec (by rw [spec?, hstream]; rfl)).1
        rw [held_setStream_self hstream, filter_append_of_ne hage hne, held_of_get? hstream]
      · rw [held_setStream_of_ne hname]

/-- What was published is the newest message on its subject. -/
theorem newest?_publish {stream : Stream} (hs : s.streams.Sorted)
    (hroute : s.route? subject = some (name, stream)) (hlasting : s.Lasting name)
    (h : (s.publish now subject payload).1 = .ok number) :
    (s.publish now subject payload).2.newest? name subject
      = some { sequence := number, subject, payload, published := now } := by
  have hstream := ((Keyed.Sorted.find?_eq_some_iff hs).1 hroute).1
  obtain ⟨hage, hlimit⟩ := hlasting stream.spec (by rw [spec?, hstream]; rfl)
  have hnumber : number = stream.lastSequence + 1 := by
    have happend := Stream.append_of_ageFits (ageFits_of_eq_none hage now) subject payload
    rw [publish, hroute] at h
    dsimp only at h
    rw [happend] at h
    exact (Outcome.ok.inj h).symm
  have hroom : stream.spec.staysIn subject [] (stream.incoming subject payload now) := by
    rw [StreamSpec.staysIn, Bool.or_eq_true]
    right
    unfold StreamSpec.hasRoom
    cases hmax : stream.spec.maxPerSubject with
    | none => rfl
    | some limit =>
      have hpos : limit ≠ 0 := fun hzero => hlimit (hmax.trans (congrArg some hzero))
      rw [Option.all_some, decide_eq_true_eq]
      exact Nat.pos_of_ne_zero hpos
  rw [newest?, heldOn, publish_snd hroute, held_setStream_self hstream,
    append_messages_of_ageless hage, keptBy_concat, if_pos hroom, List.filter_append, hnumber]
  simp [Stream.incoming]

namespace Lasting

lemma serve (h : s.Lasting name) (hs : s.streams.Sorted) (hr : r.spec? = none) (now : Nat) :
    (s.serve now r).Lasting name := by
  intro spec hspec
  rw [spec?_serve hs hr] at hspec
  exact h spec hspec

/-- A stream that is lasting in the end was so from the beginning. -/
lemma of_serveAll (h : (s.serveAll run).Lasting name) (hs : s.streams.Sorted) :
    s.Lasting name := by
  induction run generalizing s with
  | nil => exact h
  | cons e run ih =>
    intro spec hspec
    exact ih h (sorted_serve hs e.1 e.2) spec (spec?_serve_of_eq_some hs hspec e.1 e.2)

end Lasting

lemma heldOn_serveAll (hs : s.streams.Sorted) (hlasting : (s.serveAll run).Lasting name)
    (hrun : ∀ e ∈ run, ∀ payload, e.2 ≠ .publish subject payload) :
    (s.serveAll run).heldOn name subject = s.heldOn name subject := by
  induction run generalizing s with
  | nil => rfl
  | cons e run ih =>
    obtain ⟨hfirst, hrest⟩ := List.forall_mem_cons.1 hrun
    have hsorted := sorted_serve hs e.1 e.2
    have hwhole : (s.serveAll (e :: run)).Lasting name := hlasting
    rw [serveAll_cons, ih hsorted hlasting hrest]
    exact heldOn_serve hs (hwhole.of_serveAll hs) hfirst

/-! ### Any stream -/

/-- The dates in the stream of a name follow its numbers. -/
def Dated (s : Store) (name : String) : Prop :=
  ∀ stream, s.streams.get? name = some stream → stream.Dated

/-- A request does not publish at an instant before the dates in the stream of a name. -/
def InTime (s : Store) (name : String) (now : Nat) (r : Request) : Prop :=
  ∀ subject payload, r = .publish subject payload →
    ∀ stream, s.streams.get? name = some stream → stream.DatedBy now

/-- Nor does any request of a run. -/
def RunInTime (name : String) : Store → List (Nat × Request) → Prop
  | _, [] => True
  | s, (now, r) :: run => s.InTime name now r ∧ RunInTime name (s.serve now r) run

/-- What a store becomes in the course of time for a name, if what is dropped on a subject is
dropped oldest first. -/
structure Orderly (s s' : Store) (name : String) : Prop extends Later s s' name where
  dated : s'.Dated name
  oldestFirst : OldestFirst (s.held name) (s'.held name)

/-- Working on one stream is orderly if the work on it is. -/
lemma orderly_setStream {other : String} {stream stream' : Stream}
    (hdated : s.Dated name) (hother : s.streams.get? other = some stream)
    (hwork : other = name → stream'.Dated ∧ OldestFirst stream.messages stream'.messages) :
    (s.setStream other stream').Dated name ∧
      OldestFirst (s.held name) ((s.setStream other stream').held name) := by
  by_cases hname : other = name
  · subst hname
    rw [held_setStream_self hother, held_of_get? hother]
    refine ⟨fun stream'' h => ?_, (hwork rfl).2⟩
    rw [get?_setStream, if_pos rfl, hother] at h
    exact Option.some.inj h ▸ (hwork rfl).1
  · rw [held_setStream_of_ne hname]
    refine ⟨fun stream'' h => ?_, .refl _⟩
    rw [get?_setStream, if_neg hname] at h
    exact hdated stream'' h

lemma orderly_createStream (hdated : s.Dated name) (spec : StreamSpec) :
    (s.createStream spec).2.Dated name ∧
      OldestFirst (s.held name) ((s.createStream spec).2.held name) := by
  rw [held_createStream]
  refine ⟨fun stream h => ?_, .refl _⟩
  unfold createStream at h
  split at h
  · exact hdated stream h
  · rw [Keyed.get?_insert] at h
    split at h
    · exact Option.some.inj h ▸ fun _ => List.Pairwise.nil
    · exact hdated stream h

lemma orderly_streamInfo (hs : s.Sound) (hdated : s.Dated name) (now : Nat) (other : String) :
    (s.streamInfo now other).2.Dated name ∧
      OldestFirst (s.held name) ((s.streamInfo now other).2.held name) := by
  unfold streamInfo
  cases hother : s.streams.get? other with
  | none => exact ⟨hdated, .refl _⟩
  | some stream =>
    dsimp only
    split
    · exact ⟨hdated, .refl _⟩
    · next stream' hlook =>
      refine orderly_setStream hdated hother fun hname => ?_
      subst hname
      obtain ⟨hspec, -, hsub⟩ := Stream.expire?_eq_some hlook
      exact ⟨(hdated stream hother).mono hspec hsub,
        Stream.oldestFirst_expire? (hs.sound other stream hother) (hdated stream hother) hlook⟩

lemma orderly_publish (hs : s.Sound) (hdated : s.Dated name)
    (htime : s.InTime name now (.publish subject payload)) :
    (s.publish now subject payload).2.Dated name ∧
      OldestFirst (s.held name) ((s.publish now subject payload).2.held name) := by
  cases hroute : s.route? subject with
  | none =>
    rw [publish_snd_of_eq_none hroute]
    exact ⟨hdated, .refl _⟩
  | some e =>
    obtain ⟨aim, stream⟩ := e
    obtain ⟨haim, hcap, -⟩ := (Keyed.Sorted.find?_eq_some_iff hs.sorted).1 hroute
    rw [publish_snd hroute]
    refine orderly_setStream hdated haim fun hname => ?_
    subst hname
    have hnow := htime subject payload rfl stream haim
    exact ⟨(hdated stream haim).append hnow,
      Stream.oldestFirst_append (hs.sound aim stream haim) (hdated stream haim) hnow hcap⟩

namespace Orderly

lemma refl (hdated : s.Dated name) : Orderly s s name :=
  ⟨.refl s name, hdated, .refl _⟩

lemma congr (h : Orderly s s' name) (hsame : s''.streams = s'.streams) : Orderly s s'' name where
  toLater := h.toLater.congr hsame
  dated stream hstream := h.dated stream (hsame ▸ hstream)
  oldestFirst := by
    rw [held_congr hsame]
    exact h.oldestFirst

lemma trans (hs : s.Sound) (h : Orderly s s' name) (h' : Orderly s' s'' name) :
    Orderly s s'' name where
  toLater := h.toLater.trans h'.toLater
  dated := h'.dated
  oldestFirst m hm x hx hsubject hlt hkept := by
    -- what was held and is held again was held all the time
    have hmiddle : m ∈ s'.held name :=
      h'.kept m hkept ((hs.le_lastNumber hm).trans h.last_le)
    exact h'.oldestFirst m hmiddle x (h.oldestFirst m hm x hx hsubject hlt hmiddle) hsubject hlt
      hkept

/-- **What a request makes a stream drop on a subject it drops oldest first.** -/
theorem serve (hs : s.Sound) (hdated : s.Dated name) (htime : s.InTime name now r) :
    Orderly s (s.serve now r) name := by
  have hboth : (s.serve now r).Dated name ∧
      OldestFirst (s.held name) ((s.serve now r).held name) := by
    cases r with
    | createStream spec => exact orderly_createStream hdated spec
    | createBucket spec =>
      rw [Store.serve, createBucket_snd]
      exact orderly_createStream hdated _
    | publish subject payload => exact orderly_publish hs hdated htime
    | fetch other after limit =>
      rw [Store.serve, fetch_snd]
      exact orderly_streamInfo hs hdated now other
    | streamInfo other => exact orderly_streamInfo hs hdated now other
    | bucketInfo bucket =>
      rw [Store.serve, bucketInfo_snd]
      exact orderly_streamInfo hs hdated now _
  exact ⟨.serve hs name now r, hboth.1, hboth.2⟩

lemma serveAll (hs : s.Sound) (hdated : s.Dated name) (htime : RunInTime name s run) :
    Orderly s (s.serveAll run) name := by
  induction run generalizing s with
  | nil => exact .refl hdated
  | cons e run ih =>
    have hfirst := serve hs hdated htime.1
    exact hfirst.trans hs (ih (hs.serve e.1 e.2) hfirst.dated htime.2)

end Orderly

/-- Of the messages on a subject, whenever one is held that is older than the message of a number,
that message is held as well. -/
def HoldsFrom (s : Store) (name subject : String) (number : Nat) : Prop :=
  ∀ m ∈ s.held name, m.subject = subject → m.sequence < number →
    ∃ x ∈ s.held name, x.subject = subject ∧ x.sequence = number

namespace HoldsFrom

lemma of_mem {x : StoredMessage} (hx : x ∈ s.held name) :
    s.HoldsFrom name x.subject x.sequence :=
  fun _ _ _ _ => ⟨x, hx, rfl, rfl⟩

lemma orderly (h : s.HoldsFrom name subject number) (ho : Orderly s s' name)
    (hknown : number ≤ s.lastNumber name) : s'.HoldsFrom name subject number := by
  intro m hm hsubject hlt
  have hold : m ∈ s.held name := ho.kept m hm (hlt.le.trans hknown)
  obtain ⟨x, hx, hsubject', rfl⟩ := h m hold hsubject hlt
  exact ⟨x, ho.oldestFirst m hold x hx (hsubject.trans hsubject'.symm) hlt hm, hsubject', rfl⟩

end HoldsFrom

/-- The newest message on a subject has the greatest number. -/
lemma le_of_newest? (hs : s.Sound) {m x : StoredMessage} (h : s.newest? name subject = some m)
    (hx : x ∈ s.heldOn name subject) : x.sequence ≤ m.sequence := by
  have hincreasing := (hs.held_increasing name).filter fun m => m.subject == subject
  have hsplit := List.dropLast_append_getLast? m h
  rw [← heldOn] at hincreasing
  rw [← hsplit] at hincreasing hx
  rcases List.mem_append.1 hx with hx | hx
  · exact ((List.pairwise_append.1 hincreasing).2.2 x hx m (by simp)).le
  · rw [List.mem_singleton.1 hx]

/-! ### What is new -/

lemma held_streamInfo_subset (s : Store) (now : Nat) (other name : String) :
    (s.streamInfo now other).2.held name ⊆ s.held name := by
  unfold streamInfo
  cases hother : s.streams.get? other with
  | none => exact List.Subset.refl _
  | some stream =>
    dsimp only
    split
    · exact List.Subset.refl _
    · next stream' hlook =>
      by_cases hname : other = name
      · subst hname
        rw [held_setStream_self hother, held_of_get? hother]
        exact (Stream.expire?_eq_some hlook).2.2.subset
      · rw [held_setStream_of_ne hname]
        exact List.Subset.refl _

/-- What a stream holds after a request it held before, or it was published. -/
lemma mem_held_serve (hs : s.streams.Sorted) {m : StoredMessage}
    (hm : m ∈ (s.serve now r).held name) :
    m ∈ s.held name ∨ 0 < m.sequence ∧ m.published = now ∧ r = .publish m.subject m.payload := by
  cases r with
  | createStream spec =>
    rw [serve, held_createStream] at hm
    exact .inl hm
  | createBucket spec =>
    rw [serve, createBucket_snd, held_createStream] at hm
    exact .inl hm
  | fetch other after limit =>
    rw [serve, fetch_snd] at hm
    exact .inl (held_streamInfo_subset s now other name hm)
  | streamInfo other => exact .inl (held_streamInfo_subset s now other name hm)
  | bucketInfo bucket =>
    rw [serve, bucketInfo_snd] at hm
    exact .inl (held_streamInfo_subset s now _ name hm)
  | publish subject payload =>
    rw [serve] at hm
    cases hroute : s.route? subject with
    | none =>
      rw [publish_snd_of_eq_none hroute] at hm
      exact .inl hm
    | some e =>
      obtain ⟨aim, stream⟩ := e
      have hstream := ((Keyed.Sorted.find?_eq_some_iff hs).1 hroute).1
      rw [publish_snd hroute] at hm
      by_cases hname : aim = name
      · subst hname
        rw [held_setStream_self hstream] at hm
        rcases List.mem_append.1 ((Stream.append_messages_sublist ..).mem hm) with hm | hm
        · exact .inl (by rwa [held_of_get? hstream])
        · obtain rfl := List.mem_singleton.1 hm
          exact .inr ⟨Nat.succ_pos _, rfl, rfl⟩
      · rw [held_setStream_of_ne hname] at hm
        exact .inl hm

lemma sequence_pos_serveAll (hs : s.streams.Sorted) (h : ∀ m ∈ s.held name, 0 < m.sequence) :
    ∀ m ∈ (s.serveAll run).held name, 0 < m.sequence := by
  induction run generalizing s with
  | nil => exact h
  | cons e run ih =>
    refine ih (sorted_serve hs e.1 e.2) fun m hm => ?_
    rcases mem_held_serve hs hm with hm | ⟨hpos, -⟩
    · exact h m hm
    · exact hpos

/-- Where the clock never goes back every request comes in time. -/
theorem runInTime_of_sorted {start : Nat} (hs : s.streams.Sorted)
    (hstart : ∀ m ∈ s.held name, m.published ≤ start)
    (hclock : (start :: run.map Prod.fst).Pairwise (· ≤ ·)) : RunInTime name s run := by
  induction run generalizing s start with
  | nil => trivial
  | cons e run ih =>
    obtain ⟨now, r⟩ := e
    obtain ⟨hfirst, hrest⟩ := List.pairwise_cons.1 hclock
    have hnow : ∀ m ∈ s.held name, m.published ≤ now := fun m hm =>
      (hstart m hm).trans (hfirst now List.mem_cons_self)
    refine ⟨fun subject payload _ stream hstream _ m hm => ?_,
      ih (sorted_serve hs now r) (fun m hm => ?_) hrest⟩
    · exact hnow m (by rw [held_of_get? hstream]; exact hm)
    · rcases mem_held_serve hs hm with hm | ⟨-, hpublished, -⟩
      · exact hnow m hm
      · exact hpublished.le

end Store

end EdgeNode
