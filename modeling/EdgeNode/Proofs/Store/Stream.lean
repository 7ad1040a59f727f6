import EdgeNode.Store.Stream
import Mathlib.Data.List.Basic
import Mathlib.Data.Nat.Basic
import Mathlib.Order.Basic
/-!
# What a stream keeps

Looking at a stream only drops messages, and a publication adds one message with the next number
before messages are dropped.  `Stream.Sound` is what holds of every stream that was created empty,
and `Stream.Grows` is what two states of one stream have in common: the number never falls, and a
message that was dropped does not come back.
-/

namespace EdgeNode

/-- An age limit can be applied at an instant: it can be subtracted from the clock. -/
def StreamSpec.AgeFits (s : StreamSpec) (now : Nat) : Prop :=
  ∀ age, s.maxAge = some age →
    age.nanos ≤ Stream.maxAgeLimit ∧ Stream.earliest ≤ (now : Int) - age.nanos

instance (s : StreamSpec) (now : Nat) : Decidable (s.AgeFits now) :=
  match h : s.maxAge with
  | none => isTrue (by simp [StreamSpec.AgeFits, h])
  | some age =>
    decidable_of_iff
      (age.nanos ≤ Stream.maxAgeLimit ∧ Stream.earliest ≤ (now : Int) - age.nanos)
      (by simp [StreamSpec.AgeFits, h])

namespace Stream

variable {s s' s'' : Stream} {now : Nat} {subject : String} {payload : Bytes}

/-- The message that a publication adds. -/
def incoming (s : Stream) (subject : String) (payload : Bytes) (now : Nat) : StoredMessage where
  sequence := s.lastSequence + 1
  subject
  payload
  published := now

/-! ### Dropping messages -/

lemma dropOldest_sublist (subject : String) (excess : Nat) (l : List StoredMessage) :
    (dropOldest subject excess l).Sublist l := by
  induction l generalizing excess with
  | nil => exact List.Sublist.slnil
  | cons m rest ih =>
    rw [dropOldest]
    split
    · exact (ih _).cons m
    · exact (ih _).cons_cons m

@[simp] lemma trim_spec (s : Stream) (subject : String) : (s.trim subject).spec = s.spec := by
  unfold trim
  split <;> rfl

@[simp] lemma trim_lastSequence (s : Stream) (subject : String) :
    (s.trim subject).lastSequence = s.lastSequence := by
  unfold trim
  split <;> rfl

lemma trim_messages_sublist (s : Stream) (subject : String) :
    (s.trim subject).messages.Sublist s.messages := by
  unfold trim
  split
  · exact List.Sublist.refl _
  · exact dropOldest_sublist _ _ _

/-- What is left of a stream that was looked at. -/
lemma expire?_eq_some (h : s.expire? now = some s') :
    s'.spec = s.spec ∧ s'.lastSequence = s.lastSequence ∧ s'.messages.Sublist s.messages := by
  unfold expire? at h
  split at h
  · obtain rfl := Option.some.inj h
    exact ⟨rfl, rfl, List.Sublist.refl _⟩
  · split at h
    · obtain rfl := Option.some.inj h
      exact ⟨rfl, rfl, List.Sublist.refl _⟩
    · split at h
      · contradiction
      · obtain rfl := Option.some.inj h
        exact ⟨rfl, rfl, List.filter_sublist⟩

/-- A stream whose age limit can be applied keeps what is young enough. -/
lemma expire?_of_ageFits (h : s.spec.AgeFits now) :
    s.expire? now = some { s with
      messages := s.messages.filter fun m =>
        s.spec.maxAge.all fun age => decide ((now : Int) - age.nanos ≤ m.published) } := by
  unfold expire?
  cases hage : s.spec.maxAge with
  | none =>
    have hall : s.messages.filter (fun _ => true) = s.messages :=
      List.filter_eq_self.2 fun _ _ => rfl
    simp only [Option.all_none, hall]
  | some age =>
    obtain ⟨hle, hfits⟩ := h age hage
    simp only
    rw [if_neg (Nat.not_lt.2 hle), if_neg (Int.not_lt.2 hfits)]
    have hsame : ∀ m : StoredMessage,
        decide (now ≤ m.published + age.nanos)
          = (some age).all fun age => decide ((now : Int) - age.nanos ≤ m.published) := by
      intro m
      rw [Option.all_some, decide_eq_decide]
      omega
    simp only [hsame]

/-! ### Publishing -/

@[simp] lemma append_spec (s : Stream) (subject : String) (payload : Bytes) (now : Nat) :
    (s.append subject payload now).2.spec = s.spec := by
  unfold append
  simp only
  split
  · next h => rw [(expire?_eq_some h).1, trim_spec]; rfl
  · rw [trim_spec]; rfl

@[simp] lemma append_lastSequence (s : Stream) (subject : String) (payload : Bytes) (now : Nat) :
    (s.append subject payload now).2.lastSequence = s.lastSequence + 1 := by
  unfold append
  simp only
  split
  · next h => rw [(expire?_eq_some h).2.1, trim_lastSequence]; rfl
  · rw [trim_lastSequence]; rfl

lemma append_messages_sublist (s : Stream) (subject : String) (payload : Bytes) (now : Nat) :
    (s.append subject payload now).2.messages.Sublist
      (s.messages ++ [s.incoming subject payload now]) := by
  have htrim := trim_messages_sublist (s.push subject payload now) subject
  unfold append
  simp only
  split
  · next h => exact (expire?_eq_some h).2.2.trans htrim
  · exact htrim

/-- A publication that is answered is answered with the number of the message. -/
lemma append_eq_some {number : Nat} (h : s.append subject payload now = (some number, s')) :
    number = s.lastSequence + 1 := by
  have hlast := append_lastSequence s subject payload now
  rw [h] at hlast
  unfold append at h
  simp only at h
  split at h
  · obtain ⟨hn, rfl⟩ := Prod.mk.inj h
    rw [← hlast]
    exact (Option.some.inj hn).symm
  · exact absurd (congrArg Prod.fst h) (by simp)

/-- A publication is answered where the age limit can be applied. -/
lemma append_of_ageFits (h : s.spec.AgeFits now) (subject : String) (payload : Bytes) :
    s.append subject payload now
      = (some (s.lastSequence + 1), (s.append subject payload now).2) := by
  have hanswer : ∃ number, (s.append subject payload now).1 = some number := by
    have hfits : ((s.push subject payload now).trim subject).spec.AgeFits now := by
      rw [trim_spec]
      exact h
    unfold append
    simp only [expire?_of_ageFits hfits]
    exact ⟨_, rfl⟩
  obtain ⟨number, hnumber⟩ := hanswer
  have hboth : s.append subject payload now = (some number, (s.append subject payload now).2) :=
    Prod.ext hnumber rfl
  rw [append_eq_some hboth] at hboth
  exact hboth

/-! ### Soundness -/

/-- The messages of a stream are numbered in order, up to the number of the newest message that it
ever accepted, and it captures their subjects. -/
structure Sound (s : Stream) : Prop where
  increasing : s.messages.Pairwise fun a b => a.sequence < b.sequence
  bounded : ∀ m ∈ s.messages, m.sequence ≤ s.lastSequence
  captured : ∀ m ∈ s.messages, s.captures m.subject

namespace Sound

lemma empty (spec : StreamSpec) : Sound { spec } :=
  ⟨List.Pairwise.nil, by simp, by simp⟩

/-- Soundness only looks at the patterns, the number and the messages, and fewer messages are
sound as well. -/
lemma mono (hs : s.Sound) (hspec : s'.spec = s.spec) (hlast : s.lastSequence ≤ s'.lastSequence)
    (hsub : s'.messages.Sublist s.messages) : s'.Sound where
  increasing := hs.increasing.sublist hsub
  bounded m hm := (hs.bounded m (hsub.mem hm)).trans hlast
  captured m hm := by
    have h := hs.captured m (hsub.mem hm)
    rwa [captures, ← hspec] at h

lemma expire? (hs : s.Sound) (h : s.expire? now = some s') : s'.Sound := by
  obtain ⟨hspec, hlast, hsub⟩ := expire?_eq_some h
  exact hs.mono hspec hlast.ge hsub

lemma push (hs : s.Sound) (hcap : s.captures subject) : (s.push subject payload now).Sound where
  increasing := by
    refine List.pairwise_append.2 ⟨hs.increasing, List.pairwise_singleton _ _, ?_⟩
    intro a ha b hb
    obtain rfl := List.mem_singleton.1 hb
    exact Nat.lt_succ_of_le (hs.bounded a ha)
  bounded m hm := by
    rcases List.mem_append.1 hm with hm | hm
    · exact (hs.bounded m hm).trans (Nat.le_succ _)
    · obtain rfl := List.mem_singleton.1 hm
      exact Nat.le_refl _
  captured m hm := by
    rcases List.mem_append.1 hm with hm | hm
    · exact hs.captured m hm
    · obtain rfl := List.mem_singleton.1 hm
      exact hcap

lemma append {number? : Option Nat} (hs : s.Sound) (hcap : s.captures subject)
    (h : s.append subject payload now = (number?, s')) : s'.Sound := by
  obtain rfl : (s.append subject payload now).2 = s' := congrArg Prod.snd h
  have hpush : (s.push subject payload now).Sound := hs.push hcap
  exact hpush.mono (append_spec ..) (append_lastSequence ..).ge (append_messages_sublist ..)

end Sound

/-! ### What a stream becomes -/

/-- What a stream becomes in the course of time. -/
structure Grows (s s' : Stream) : Prop where
  spec_eq : s'.spec = s.spec
  last_le : s.lastSequence ≤ s'.lastSequence
  /-- Messages that are no newer were there before. -/
  kept : ∀ m ∈ s'.messages, m.sequence ≤ s.lastSequence → m ∈ s.messages

namespace Grows

lemma refl (s : Stream) : s.Grows s :=
  ⟨rfl, Nat.le_refl _, fun _ hm _ => hm⟩

lemma trans (h : s.Grows s') (h' : s'.Grows s'') : s.Grows s'' where
  spec_eq := h'.spec_eq.trans h.spec_eq
  last_le := h.last_le.trans h'.last_le
  kept m hm hle := h.kept m (h'.kept m hm (hle.trans h.last_le)) hle

lemma expire? (h : s.expire? now = some s') : s.Grows s' := by
  obtain ⟨hspec, hlast, hsub⟩ := expire?_eq_some h
  exact ⟨hspec, hlast.ge, fun m hm _ => hsub.mem hm⟩

lemma append {number? : Option Nat} (h : s.append subject payload now = (number?, s')) :
    s.Grows s' := by
  obtain rfl : (s.append subject payload now).2 = s' := congrArg Prod.snd h
  refine ⟨append_spec .., (append_lastSequence ..).symm ▸ Nat.le_succ _, fun m hm hle => ?_⟩
  rcases List.mem_append.1 ((append_messages_sublist ..).mem hm) with hm | hm
  · exact hm
  · -- the message that was added is newer than all before it
    obtain rfl := List.mem_singleton.1 hm
    exact absurd hle (Nat.not_succ_le_self _)

end Grows

end Stream

end EdgeNode
