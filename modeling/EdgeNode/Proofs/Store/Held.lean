import EdgeNode.Proofs.Store.Requests
/-!
# What a store holds under a name

A stream that is not there holds nothing and has numbered nothing, so that a name can be followed
from before its stream is created.  `Store.Later` is what two states of a store have in common for a
name, whatever was asked in between.
-/

namespace EdgeNode.Store

variable {s s' s'' : Store} {name : String} {now : Nat} {r : Request}

/-- The messages that the stream of a name holds. -/
def held (s : Store) (name : String) : List StoredMessage :=
  (s.streams.get? name).elim [] Stream.messages

/-- The number of the newest message that the stream of a name ever accepted. -/
def lastNumber (s : Store) (name : String) : Nat :=
  (s.streams.get? name).elim 0 Stream.lastSequence

/-- The streams are listed by name and sound. -/
structure Sound (s : Store) : Prop where
  sorted : s.streams.Sorted
  sound : ∀ name stream, s.streams.get? name = some stream → stream.Sound

/-- What a store becomes in the course of time for a name. -/
structure Later (s s' : Store) (name : String) : Prop where
  last_le : s.lastNumber name ≤ s'.lastNumber name
  /-- Messages that are no newer were there before. -/
  kept : ∀ m ∈ s'.held name, m.sequence ≤ s.lastNumber name → m ∈ s.held name

lemma held_congr (h : s'.streams = s.streams) (name : String) : s'.held name = s.held name := by
  rw [held, held, h]

lemma lastNumber_congr (h : s'.streams = s.streams) (name : String) :
    s'.lastNumber name = s.lastNumber name := by
  rw [lastNumber, lastNumber, h]

namespace Sound

lemma empty : Sound {} :=
  ⟨sorted_empty, fun _ _ h => by contradiction⟩

lemma congr (hs : s.Sound) (h : s'.streams = s.streams) : s'.Sound := by
  refine ⟨?_, ?_⟩
  · rw [h]
    exact hs.sorted
  · rw [h]
    exact hs.sound

lemma serve (hs : s.Sound) (now : Nat) (r : Request) : (s.serve now r).Sound := by
  refine ⟨sorted_serve hs.sorted now r, fun name stream hstream => ?_⟩
  have hchange := change_serve hs.sorted name now r
  rw [hstream] at hchange
  generalize hbefore : s.streams.get? name = before at hchange
  generalize s.arrivals name now r = arrived at hchange
  cases hchange with
  | same _ => exact hs.sound name stream hbefore
  | created _ _ => exact .empty _
  | looked hlook => exact (hs.sound name _ hbefore).expire? hlook
  | balked _ => exact hs.sound name stream hbefore
  | appended hcap happend => exact (hs.sound name _ hbefore).append hcap happend
  | choked hcap happend => exact (hs.sound name _ hbefore).append hcap happend

lemma serveAll (hs : s.Sound) (run : List (Nat × Request)) : (s.serveAll run).Sound := by
  induction run generalizing s with
  | nil => exact hs
  | cons e run ih => exact ih (hs.serve e.1 e.2)

lemma held_increasing (hs : s.Sound) (name : String) :
    (s.held name).Pairwise fun a b => a.sequence < b.sequence := by
  unfold held
  cases hstream : s.streams.get? name with
  | none => exact List.Pairwise.nil
  | some stream => exact (hs.sound name stream hstream).increasing

lemma le_lastNumber (hs : s.Sound) {m : StoredMessage} (hm : m ∈ s.held name) :
    m.sequence ≤ s.lastNumber name := by
  unfold held at hm
  unfold lastNumber
  cases hstream : s.streams.get? name with
  | none => simp [hstream] at hm
  | some stream =>
    rw [hstream] at hm
    exact (hs.sound name stream hstream).bounded m hm

end Sound

namespace Later

lemma refl (s : Store) (name : String) : Later s s name :=
  ⟨Nat.le_refl _, fun _ hm _ => hm⟩

lemma trans (h : Later s s' name) (h' : Later s' s'' name) : Later s s'' name where
  last_le := h.last_le.trans h'.last_le
  kept m hm hle := h.kept m (h'.kept m hm (hle.trans h.last_le)) hle

lemma congr (h : Later s s' name) (hsame : s''.streams = s'.streams) : Later s s'' name where
  last_le := by
    rw [lastNumber_congr hsame]
    exact h.last_le
  kept := by
    rw [held_congr hsame]
    exact h.kept

lemma serve (hs : s.Sound) (name : String) (now : Nat) (r : Request) :
    Later s (s.serve now r) name := by
  have hchange := change_serve hs.sorted name now r
  generalize s.arrivals name now r = arrived at hchange
  cases hbefore : s.streams.get? name with
  | none =>
    -- a stream is created empty, and a refused publication leaves nothing
    have hzero : s.lastNumber name = 0 := by
      rw [lastNumber, hbefore]
      rfl
    have hnothing : (s.serve now r).held name = [] := by
      unfold held
      rw [hbefore] at hchange
      generalize (s.serve now r).streams.get? name = after at hchange ⊢
      cases hchange <;> rfl
    refine ⟨hzero ▸ Nat.zero_le _, fun m hm _ => ?_⟩
    rw [hnothing] at hm
    contradiction
  | some stream =>
    rw [hbefore] at hchange
    obtain ⟨stream', hafter, hgrows⟩ := hchange.grows
    refine ⟨?_, ?_⟩
    · rw [lastNumber, lastNumber, hbefore, hafter]
      exact hgrows.last_le
    · rw [held, held, lastNumber, hbefore, hafter]
      exact hgrows.kept

lemma serveAll (hs : s.Sound) (name : String) (run : List (Nat × Request)) :
    Later s (s.serveAll run) name := by
  induction run generalizing s with
  | nil => exact refl s name
  | cons e run ih => exact (serve hs name e.1 e.2).trans (ih (hs.serve e.1 e.2))

end Later

/-- What is fetched is held behind the given number, from the first on. -/
lemma fetch_eq_ok {after limit : Nat} {batch : List StoredMessage}
    (h : s.fetch now name after limit = (.ok batch, s')) :
    batch = ((s'.held name).filter fun m => m.sequence > after).take limit := by
  unfold fetch at h
  split at h
  · exact absurd (congrArg Prod.fst h) (by simp)
  · next hstream =>
    split at h
    · exact absurd (congrArg Prod.fst h) (by simp)
    · obtain ⟨hbatch, rfl⟩ := Prod.mk.inj h
      rw [held, get?_setStream, if_pos rfl, hstream]
      exact (Outcome.ok.inj hbatch).symm

end EdgeNode.Store
