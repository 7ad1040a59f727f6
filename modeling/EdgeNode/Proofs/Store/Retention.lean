import EdgeNode.Proofs.Store.Requests
/-!
# Retention

What a stream holds is determined by what it accepted and by the instant at which it was last
published to or looked at: `StreamSpec.retained` picks the messages from the history.  A message
stays while fewer later ones than the limit are on its subject and while it is young enough.

The stream itself never sees its history, only what earlier operations left of it.  That trimming
what is left comes to the same as trimming the history rests on `onSubject_retained`: behind a
message that is kept nothing on its subject was dropped.
-/

namespace EdgeNode

/-- How many messages are on a subject. -/
def onSubject (subject : String) (l : List StoredMessage) : Nat :=
  l.countP fun m => m.subject == subject

/-- The messages that a criterion keeps, which looks at the messages behind each. -/
def keptBy (keep : List StoredMessage → StoredMessage → Bool) :
    List StoredMessage → List StoredMessage
  | [] => []
  | m :: later => if keep later m then m :: keptBy keep later else keptBy keep later

namespace StreamSpec

/-- Whether a message may stay that is followed by so many messages on its subject. -/
def hasRoom (s : StreamSpec) (followers : Nat) : Bool :=
  s.maxPerSubject.all fun limit => followers < limit

/-- Whether a message is young enough at an instant. -/
def isYoung (s : StreamSpec) (now : Nat) (m : StoredMessage) : Bool :=
  s.maxAge.all fun age => (now : Int) - age.nanos ≤ m.published

/-- Whether a message is kept at an instant, given the messages accepted after it. -/
def keeps (s : StreamSpec) (now : Nat) (later : List StoredMessage) (m : StoredMessage) : Bool :=
  s.hasRoom (onSubject m.subject later) && s.isYoung now m

/-- What is kept of a history at an instant. -/
def retained (s : StreamSpec) (now : Nat) (history : List StoredMessage) : List StoredMessage :=
  keptBy (s.keeps now) history

end StreamSpec

/-! ### Counting -/

lemma onSubject_cons (subject : String) (m : StoredMessage) (l : List StoredMessage) :
    onSubject subject (m :: l) = onSubject subject l + if m.subject = subject then 1 else 0 := by
  simp only [onSubject, List.countP_cons, beq_iff_eq]

lemma onSubject_concat (subject : String) (l : List StoredMessage) (m : StoredMessage) :
    onSubject subject (l ++ [m]) = onSubject subject l + if m.subject = subject then 1 else 0 := by
  simp only [onSubject, List.countP_append, List.countP_singleton, beq_iff_eq]

lemma keptBy_true (l : List StoredMessage) : keptBy (fun _ _ => true) l = l := by
  induction l with
  | nil => rfl
  | cons m l ih => rw [keptBy, if_pos rfl, ih]

lemma filter_keptBy (p : StoredMessage → Bool) (keep : List StoredMessage → StoredMessage → Bool)
    (l : List StoredMessage) :
    (keptBy keep l).filter p = keptBy (fun later m => keep later m && p m) l := by
  induction l with
  | nil => rfl
  | cons m l ih =>
    rw [keptBy, keptBy]
    by_cases hk : keep l m
    · by_cases hp : p m
      · simp [hk, hp, ih]
      · simp [hk, hp, ih]
    · simp [hk, ih]

namespace StreamSpec

variable {s : StreamSpec} {time now : Nat}

lemma hasRoom_of_le {n n' : Nat} (hle : n ≤ n') (h : s.hasRoom n') : s.hasRoom n := by
  unfold hasRoom at h ⊢
  cases hmax : s.maxPerSubject with
  | none => rfl
  | some limit =>
    rw [hmax, Option.all_some, decide_eq_true_eq] at h
    rw [Option.all_some, decide_eq_true_eq]
    exact hle.trans_lt h

lemma isYoung_of_le {m : StoredMessage} (hle : time ≤ now) (h : s.isYoung now m) :
    s.isYoung time m := by
  unfold isYoung at h ⊢
  cases hage : s.maxAge with
  | none => rfl
  | some age =>
    rw [hage, Option.all_some, decide_eq_true_eq] at h
    rw [Option.all_some, decide_eq_true_eq]
    omega

lemma isYoung_of_published_le {m m' : StoredMessage} (hle : m.published ≤ m'.published)
    (h : s.isYoung now m) : s.isYoung now m' := by
  unfold isYoung at h ⊢
  cases hage : s.maxAge with
  | none => rfl
  | some age =>
    rw [hage, Option.all_some, decide_eq_true_eq] at h
    rw [Option.all_some, decide_eq_true_eq]
    omega

lemma isYoung_of_now_le {m : StoredMessage} (hle : now ≤ m.published) : s.isYoung now m := by
  unfold isYoung
  cases hage : s.maxAge with
  | none => rfl
  | some age =>
    rw [Option.all_some, decide_eq_true_eq]
    omega

/-- Looking later at what was kept is looking later at the history. -/
lemma filter_retained (hle : time ≤ now) (history : List StoredMessage) :
    (s.retained time history).filter (s.isYoung now) = s.retained now history := by
  rw [retained, retained, filter_keptBy]
  congr 1
  funext later m
  unfold keeps
  by_cases hyoung : s.isYoung now m
  · simp [hyoung, isYoung_of_le hle hyoung]
  · simp [hyoung]

/-- Among messages that are all young enough none on a subject is dropped while there is room for
all of them. -/
lemma onSubject_retained {subject : String} {l : List StoredMessage}
    (hroom : s.hasRoom (onSubject subject l)) (hyoung : ∀ m ∈ l, s.isYoung time m) :
    onSubject subject (s.retained time l) = onSubject subject l := by
  induction l with
  | nil => rfl
  | cons m l ih =>
    rw [onSubject_cons] at hroom
    have hrest : onSubject subject (s.retained time l) = onSubject subject l :=
      ih (hasRoom_of_le (Nat.le_add_right _ _) hroom)
        fun m' hm' => hyoung m' (List.mem_cons_of_mem _ hm')
    rw [retained, keptBy]
    by_cases hsub : m.subject = subject
    · have hkeep : s.keeps time l m := by
        rw [keeps, Bool.and_eq_true, hsub]
        exact ⟨hasRoom_of_le (Nat.le_add_right _ _) hroom, hyoung m List.mem_cons_self⟩
      rw [if_pos hkeep, onSubject_cons, onSubject_cons, ← hrest]
      rfl
    · rw [onSubject_cons, if_neg hsub, Nat.add_zero, ← hrest]
      split
      · rw [onSubject_cons, if_neg hsub, Nat.add_zero]
        rfl
      · rfl

end StreamSpec

/-! ### Trimming -/

/-- The criterion by which a stream is trimmed after a publication on a subject. -/
def StreamSpec.staysIn (s : StreamSpec) (subject : String) (later : List StoredMessage)
    (m : StoredMessage) : Bool :=
  m.subject != subject || s.hasRoom (onSubject subject later)

/-- Dropping the oldest messages on a subject keeps those with few enough behind them. -/
lemma Stream.dropOldest_eq_keptBy (subject : String) (limit : Nat) (l : List StoredMessage) :
    dropOldest subject (onSubject subject l - limit) l
      = keptBy (fun later m => m.subject != subject || decide (onSubject subject later < limit))
          l := by
  induction l with
  | nil => rfl
  | cons m l ih =>
    rw [dropOldest, keptBy, onSubject_cons]
    by_cases hsub : m.subject = subject
    · simp only [hsub, if_true, and_true, bne_self_eq_false, Bool.false_or, decide_eq_true_eq]
      by_cases hroom : onSubject subject l < limit
      · have hnone : onSubject subject l + 1 - limit = 0 := by omega
        have hnone' : onSubject subject l - limit = 0 := by omega
        rw [if_pos hroom, if_neg (by omega), hnone, ← ih, hnone']
      · have hone : onSubject subject l + 1 - limit - 1 = onSubject subject l - limit := by omega
        rw [if_neg hroom, if_pos (by omega), hone, ih]
    · have hother : (m.subject != subject) = true := bne_iff_ne.2 hsub
      simp only [hsub, and_false, if_false, Nat.add_zero, hother, Bool.true_or, if_true]
      rw [ih]

@[simp] lemma Stream.trim_messages (s : Stream) (subject : String) :
    (s.trim subject).messages = keptBy (s.spec.staysIn subject) s.messages := by
  unfold trim StreamSpec.staysIn StreamSpec.hasRoom
  cases s.spec.maxPerSubject with
  | none => simp only [Option.all_none, Bool.or_true, keptBy_true]
  | some limit =>
    have hcount : (s.messages.filter fun m => m.subject == subject).length
        = onSubject subject s.messages := List.countP_eq_length_filter.symm
    simp only [hcount, Option.all_some]
    exact dropOldest_eq_keptBy subject limit s.messages

/-- Trimming what was kept after a publication is keeping of the longer history. -/
lemma StreamSpec.keptBy_staysIn_retained {s : StreamSpec} {time : Nat} {m : StoredMessage}
    {history : List StoredMessage}
    (hordered : history.Pairwise fun a b => a.published ≤ b.published)
    (hpast : ∀ a ∈ history, a.published ≤ m.published) (hyoung : s.isYoung time m) :
    keptBy (s.staysIn m.subject) (s.retained time history ++ [m])
      = s.retained time (history ++ [m]) := by
  induction history with
  | nil =>
    simp [retained, keptBy, staysIn, keeps, hyoung]
  | cons a history ih =>
    obtain ⟨hfirst, hrest⟩ := List.pairwise_cons.1 hordered
    have ih := ih hrest fun b hb => hpast b (List.mem_cons_of_mem _ hb)
    -- one message on: what the new one changes for a message is what trimming finds
    have hlater : s.keeps time (history ++ [m]) a
        = (s.keeps time history a && s.staysIn m.subject (s.retained time history ++ [m]) a) := by
      by_cases hsub : a.subject = m.subject
      · -- the new message counts against this one
        rw [keeps, onSubject_concat, keeps, staysIn, onSubject_concat, hsub]
        simp only [if_true, bne_self_eq_false, Bool.false_or]
        by_cases hkept : s.hasRoom (onSubject m.subject history) && s.isYoung time a
        · obtain ⟨hroom, hage⟩ := Bool.and_eq_true_iff.1 hkept
          rw [onSubject_retained hroom fun b hb => isYoung_of_published_le (hfirst b hb) hage,
            hroom, hage, Bool.and_true, Bool.true_and]
          simp
        · rw [Bool.eq_false_iff.2 hkept, Bool.false_and, Bool.eq_false_iff]
          intro hkeep
          obtain ⟨hroom, hage⟩ := Bool.and_eq_true_iff.1 hkeep
          exact hkept (Bool.and_eq_true_iff.2 ⟨hasRoom_of_le (Nat.le_succ _) hroom, hage⟩)
      · have hother : (a.subject != m.subject) = true := bne_iff_ne.2 hsub
        rw [keeps, onSubject_concat, if_neg (Ne.symm hsub), staysIn, hother, Bool.true_or,
          Bool.and_true]
        rfl
    rw [List.cons_append, retained, retained, keptBy, keptBy, hlater]
    by_cases hkeep : s.keeps time history a
    · rw [if_pos hkeep, List.cons_append, keptBy, hkeep, Bool.true_and]
      rw [retained] at ih
      rw [retained, ih]
      rfl
    · rw [if_neg hkeep, Bool.eq_false_iff.2 hkeep, Bool.false_and]
      exact ih

/-! ### What one operation makes of a history -/

namespace Stream

variable {s s' : Stream} {history : List StoredMessage} {time now : Nat} {subject : String}
  {payload : Bytes}

/-- What a stream holds after a publication. -/
lemma append_messages (hfits : s.spec.AgeFits now) :
    (s.append subject payload now).2.messages
      = (keptBy (s.spec.staysIn subject) (s.messages ++ [s.incoming subject payload now])).filter
          (s.spec.isYoung now) := by
  have hspec : ((s.push subject payload now).trim subject).spec = s.spec := trim_spec _ _
  have hkept : ((s.push subject payload now).trim subject).spec.AgeFits now := by
    rw [hspec]
    exact hfits
  unfold append
  simp only [expire?_of_ageFits hkept, trim_messages, hspec]
  rfl

/-- A stream holds what is kept of a history at an instant; nothing in the history is younger. -/
structure Retains (s : Stream) (history : List StoredMessage) (time : Nat) : Prop where
  held : s.messages = s.spec.retained time history
  ordered : history.Pairwise fun a b => a.published ≤ b.published
  past : ∀ m ∈ history, m.published ≤ time

namespace Retains

lemma empty (spec : StreamSpec) (time : Nat) : Retains { spec } [] time :=
  ⟨rfl, List.Pairwise.nil, by simp⟩

lemma expire? (hs : s.Retains history time) (hfits : s.spec.AgeFits now) (hle : time ≤ now)
    (h : s.expire? now = some s') : s'.Retains history now := by
  rw [expire?_of_ageFits hfits, Option.some.injEq] at h
  subst h
  refine ⟨?_, hs.ordered, fun m hm => (hs.past m hm).trans hle⟩
  show s.messages.filter (s.spec.isYoung now) = s.spec.retained now history
  rw [hs.held]
  exact StreamSpec.filter_retained hle history

lemma append {number : Nat} (hs : s.Retains history time) (hfits : s.spec.AgeFits now)
    (hle : time ≤ now) (h : s.append subject payload now = (some number, s')) :
    s'.Retains (history ++ [{ sequence := number, subject, payload, published := now }]) now := by
  obtain rfl := append_eq_some h
  obtain rfl : (s.append subject payload now).2 = s' := congrArg Prod.snd h
  have hpast : ∀ a ∈ history, a.published ≤ now := fun a ha => (hs.past a ha).trans hle
  refine ⟨?_, ?_, ?_⟩
  · have hyoung : s.spec.isYoung time (s.incoming subject payload now) :=
      StreamSpec.isYoung_of_now_le hle
    have htrim := StreamSpec.keptBy_staysIn_retained hs.ordered hpast hyoung
    rw [append_messages hfits, append_spec, hs.held]
    exact (congrArg (List.filter _) htrim).trans (StreamSpec.filter_retained hle _)
  · refine List.pairwise_append.2 ⟨hs.ordered, List.pairwise_singleton _ _, ?_⟩
    intro a ha b hb
    obtain rfl := List.mem_singleton.1 hb
    exact hpast a ha
  · intro a ha
    rcases List.mem_append.1 ha with ha | ha
    · exact hpast a ha
    · obtain rfl := List.mem_singleton.1 ha
      exact Nat.le_refl _

end Retains

end Stream

/-! ### Runs -/

namespace Store

variable {s : Store} {name : String} {now : Nat} {r : Request} {run : List (Nat × Request)}

/-- A request leaves a stream with what is kept of its history at that instant, unless it has
nothing to do with the stream. -/
lemma Change.retains {stream? : Option Stream} {stream : Stream}
    {history arrived : List StoredMessage}
    (hchange : Change s name now r stream? (some stream) arrived)
    (hfits : stream.spec.AgeFits now) (hnone : stream? = none → history = [])
    (hbefore : ∀ old, stream? = some old → ∃ time ≤ now, old.Retains history time) :
    stream.Retains (history ++ arrived) now ∨
      stream? = some stream ∧ arrived = [] ∧ s.touched? r ≠ some name := by
  cases hchange with
  | same hfree => exact .inr ⟨rfl, rfl, fun h => absurd (hfree h) (by simp)⟩
  | created _ _ =>
    rw [hnone rfl]
    exact .inl (.empty _ now)
  | looked hlook =>
    obtain ⟨time, hle, hold⟩ := hbefore _ rfl
    rw [(Stream.expire?_eq_some hlook).1] at hfits
    rw [List.append_nil]
    exact .inl (hold.expire? hfits hle hlook)
  | balked hlook =>
    rw [Stream.expire?_of_ageFits hfits] at hlook
    contradiction
  | appended _ happend =>
    obtain ⟨time, hle, hold⟩ := hbefore _ rfl
    have hspec := congrArg (fun p => p.2.spec) happend
    rw [Stream.append_spec] at hspec
    rw [← hspec] at hfits
    exact .inl (hold.append hfits hle happend)
  | choked _ happend =>
    have hspec := congrArg (fun p => p.2.spec) happend
    rw [Stream.append_spec] at hspec
    rw [← hspec] at hfits
    rw [Stream.append_of_ageFits hfits] at happend
    exact absurd (congrArg Prod.fst happend) (by simp)

/-- What a run has made of a stream when one more request was served. -/
lemma retains_concat {stream : Stream}
    (hclock : ((run ++ [(now, r)]).map Prod.fst).Pairwise (· ≤ ·))
    (hstream : (serveAll {} (run ++ [(now, r)])).streams.get? name = some stream)
    (hages : ∀ e ∈ run ++ [(now, r)], stream.spec.AgeFits e.1)
    (hbefore : ∀ old, (serveAll {} run).streams.get? name = some old →
      (∀ e ∈ run, old.spec.AgeFits e.1) → ∃ e ∈ run, old.Retains (accepted {} name run) e.1) :
    stream.Retains (accepted {} name (run ++ [(now, r)])) now ∨
      (serveAll {} run).streams.get? name = some stream ∧
        accepted {} name (run ++ [(now, r)]) = accepted {} name run ∧
        (serveAll {} run).touched? r ≠ some name := by
  have hchange := change_serve (sorted_serveAll sorted_empty run) name now r
  rw [← serveAll_concat, hstream] at hchange
  have hlast : ∀ e ∈ run, e.1 ≤ now := by
    intro e he
    rw [List.map_append, List.pairwise_append] at hclock
    exact hclock.2.2 e.1 (List.mem_map_of_mem he) now (by simp)
  have hearlier : ∀ old, (serveAll {} run).streams.get? name = some old →
      ∃ time ≤ now, old.Retains (accepted {} name run) time := by
    intro old hold
    have hspec : stream.spec = old.spec := by
      rw [hold] at hchange
      obtain ⟨_, heq, hgrows⟩ := hchange.grows
      obtain rfl := Option.some.inj heq
      exact hgrows.spec_eq
    obtain ⟨e, he, hretains⟩ := hbefore old hold fun e he =>
      hspec ▸ hages e (List.mem_append_left _ he)
    exact ⟨e.1, hlast e he, hretains⟩
  rw [accepted_concat]
  rcases hchange.retains (hages (now, r) (by simp)) accepted_of_get?_eq_none hearlier with
    hretains | ⟨hsame, hnothing, hfree⟩
  · exact .inl hretains
  · rw [hnothing, List.append_nil]
    exact .inr ⟨hsame, rfl, hfree⟩

/-- After a run a stream holds what is kept of its history at some instant of the run. -/
lemma retains_run (run : List (Nat × Request)) (hclock : (run.map Prod.fst).Pairwise (· ≤ ·))
    {stream : Stream} (hstream : (serveAll {} run).streams.get? name = some stream)
    (hages : ∀ e ∈ run, stream.spec.AgeFits e.1) :
    ∃ e ∈ run, stream.Retains (accepted {} name run) e.1 := by
  induction run using List.reverseRecOn generalizing stream with
  | nil => exact absurd hstream (by simp [Keyed.get?])
  | append_singleton run e ih =>
    obtain ⟨now, r⟩ := e
    have hclock' : (run.map Prod.fst).Pairwise (· ≤ ·) := by
      rw [List.map_append, List.pairwise_append] at hclock
      exact hclock.1
    rcases retains_concat hclock hstream hages fun old hold => ih hclock' hold with
      hretains | ⟨hsame, hnothing, -⟩
    · exact ⟨(now, r), by simp, hretains⟩
    · obtain ⟨e, he, hretains⟩ := ih hclock' hsame fun e he => hages e (List.mem_append_left _ he)
      exact ⟨e, List.mem_append_left _ he, hnothing ▸ hretains⟩

/-- **Retention is exact.**  Right after a request that publishes to a stream or looks at it, the
stream holds exactly the messages of its history that are kept at that instant: those that fewer
later messages than the limit follow on their subject and that are young enough. -/
theorem messages_eq_retained {stream : Stream}
    (hclock : ((run ++ [(now, r)]).map Prod.fst).Pairwise (· ≤ ·))
    (hstream : (serveAll {} (run ++ [(now, r)])).streams.get? name = some stream)
    (hages : ∀ e ∈ run ++ [(now, r)], stream.spec.AgeFits e.1)
    (htouch : (serveAll {} run).touched? r = some name) :
    stream.messages = stream.spec.retained now (accepted {} name (run ++ [(now, r)])) := by
  have hclock' : (run.map Prod.fst).Pairwise (· ≤ ·) := by
    rw [List.map_append, List.pairwise_append] at hclock
    exact hclock.1
  rcases retains_concat hclock hstream hages fun old => retains_run run hclock' with
    hretains | ⟨-, -, hfree⟩
  · exact hretains.held
  · exact absurd htouch hfree

/-- Three publications to a stream that keeps one message on a subject, for ten nanoseconds. -/
def briefRun : List (Nat × Request) :=
  [(90, .createStream
      { name := "S", subjects := [">"], maxAge := some ⟨10⟩, maxPerSubject := some 1 }),
   (100, .publish "a" [1]), (104, .publish "b" [2]), (106, .publish "a" [3])]

/-- The first message is one too many on its subject and the second is too old. -/
theorem messages_eq_retained_briefRun :
    ∃ stream, (serveAll {} (briefRun ++ [(115, .fetch "S" 0 10)])).streams.get? "S" = some stream ∧
      stream.messages
        = stream.spec.retained 115 (accepted {} "S" (briefRun ++ [(115, .fetch "S" 0 10)])) ∧
      stream.messages.map StoredMessage.sequence = [3] := by
  let stream : Stream :=
    { spec := { name := "S", subjects := [">"], maxAge := some ⟨10⟩, maxPerSubject := some 1 }
      messages := [⟨3, "a", [3], 106⟩]
      lastSequence := 3 }
  have hstream :
      (serveAll {} (briefRun ++ [(115, .fetch "S" 0 10)])).streams.get? "S" = some stream := by
    decide +kernel
  exact ⟨stream, hstream,
    messages_eq_retained (by decide +kernel) hstream (by decide +kernel) (by decide +kernel), rfl⟩

end Store

end EdgeNode
