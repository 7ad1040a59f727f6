import EdgeNode.Files
import Mathlib.Data.List.Basic
/-!
# Files that were written

What was written to a path is read from it.  A path that leads to a file leads there through
directories only, so that putting a file where there is no directory leaves the way as it was.
-/

namespace EdgeNode.Files

variable {f f' : Files} {l l' : Location} {e : Entry} {path : String}

@[simp] lemma namesOf_put (f : Files) (l : Location) (e : Entry) (path : String) :
    (f.put l e).namesOf path = f.namesOf path := rfl

lemma get?_put_self (h : l ≠ []) : (f.put l e).get? l = some e := by
  have hsome : l.isEmpty = false := by simpa using h
  simp [get?, put, hsome]

lemma get?_put_of_ne (h : l' ≠ l) : (f.put l e).get? l' = f.get? l' := by
  unfold get? put
  split
  · rfl
  · have hne : ((l, e).1 == l') = false := by simpa using Ne.symm h
    rw [List.find?_cons_of_neg (by simpa using Ne.symm h), List.find?_filter]
    congr 2
    funext old
    by_cases hold : old.1 = l'
    · simp [hold, h]
    · simp [hold]

/-- The way to a location does not change when something is put where no directory is. -/
lemma walk_put (hl : ∀ mode, f.get? l ≠ some (.directory mode)) {here : Location}
    {names : List String} (h : f.walk here names = .ok l') :
    (f.put l e).walk here names = .ok l' := by
  induction names generalizing here with
  | nil => exact h
  | cons name names ih =>
    rw [walk] at h ⊢
    split at h
    · contradiction
    · contradiction
    · next mode hhere =>
      have hne : here ≠ l := fun heq => hl mode (heq ▸ hhere)
      rw [get?_put_of_ne hne, hhere]
      dsimp only
      split at h
      · next hidle => rw [if_pos hidle, ih h]
      · next hidle =>
        rw [if_neg hidle]
        split at h
        · next hup => rw [if_pos hup, ih h]
        · next hup =>
          rw [if_neg hup]
          split at h
          · contradiction
          · next hlong => rw [if_neg hlong, ih h]

/-- A file is written where the path leads and no directory is. -/
lemma openForWriting_eq_ok {old : Option (Bytes × Nat)}
    (h : f.openForWriting path = .ok (l, old)) :
    f.locate path = .ok l ∧ ∀ mode, f.get? l ≠ some (.directory mode) := by
  unfold openForWriting at h
  unfold locate
  split at h
  · contradiction
  · split at h
    · split at h <;> contradiction
    · split at h
      · contradiction
      · next hwalk =>
        rw [hwalk]
        split at h
        · contradiction
        · next hfile =>
          obtain ⟨rfl, -⟩ := Prod.mk.inj (Except.ok.inj h)
          exact ⟨rfl, by simp [hfile]⟩
        · next hnone =>
          split at h
          · obtain ⟨rfl, -⟩ := Prod.mk.inj (Except.ok.inj h)
            exact ⟨rfl, by simp [hnone]⟩
          · contradiction
          · contradiction

/-- What is put where a path is written is read from it. -/
lemma read_put {old : Option (Bytes × Nat)} (h : f.openForWriting path = .ok (l, old))
    (content : Bytes) (mode : Nat) : (f.put l (.file content mode)).read path = .ok content := by
  obtain ⟨hlocate, hfree⟩ := openForWriting_eq_ok h
  have hroot : l ≠ [] := by
    rintro rfl
    exact hfree newDirectoryMode rfl
  have hlocate' : (f.put l (.file content mode)).locate path = .ok l := by
    unfold locate at hlocate ⊢
    rw [namesOf_put]
    split at hlocate
    · contradiction
    · exact walk_put hfree hlocate
  rw [read, stat, hlocate']
  simp only [get?_put_self hroot]

/-- **What was written is read.** -/
theorem read_write {content : Bytes} (h : f.write path content = .ok f') :
    f'.read path = .ok content := by
  unfold write at h
  split at h
  · contradiction
  · next l old hopen =>
    obtain rfl := Except.ok.inj h
    exact read_put hopen content _

/-- Also where the permission bits are given with it. -/
theorem read_writeWithMode {content : Bytes} {mode : Nat}
    (h : f.writeWithMode path content mode = .ok f') : f'.read path = .ok content := by
  unfold writeWithMode at h
  split at h
  · contradiction
  · next l old hopen =>
    obtain rfl := Except.ok.inj h
    exact read_put hopen content _

end EdgeNode.Files
