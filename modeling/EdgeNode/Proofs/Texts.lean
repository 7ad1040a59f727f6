import EdgeNode.Proofs.Paths
import EdgeNode.Text.Blank
import Mathlib.Data.List.DropRight
/-!
# Trimmed texts and lines

Trimming takes the blank characters off both ends and nothing else (`trim_eq_iff`).  So whatever
blank stands around a text, it is trimmed to the same (`trim_surrounded`), and the lines of a text,
once they are trimmed, are the trimmed pieces between its line feeds, but for an empty one at the
end (`map_trim_lines`).
-/

namespace EdgeNode.Text

variable {cs before mid after : List Char}

/-! ### Trimming -/

/-- All characters are blank. -/
def IsBlank (cs : List Char) : Prop :=
  ∀ c ∈ cs, isBlank c = true

/-- There is no blank character at either end. -/
structure IsTrimmed (cs : List Char) : Prop where
  first : ∀ c, cs.head? = some c → isBlank c = false
  last : ∀ c, cs.getLast? = some c → isBlank c = false

lemma isBlank_nil : IsBlank [] := fun _ hc => by contradiction

lemma isBlank_singleton {c : Char} (h : isBlank c = true) : IsBlank [c] := by
  intro c' hc
  obtain rfl := List.mem_singleton.1 hc
  exact h

lemma IsBlank.append (hbefore : IsBlank before) (hafter : IsBlank after) :
    IsBlank (before ++ after) := by
  intro c hc
  rcases List.mem_append.1 hc with hc | hc
  · exact hbefore c hc
  · exact hafter c hc

lemma isTrimmed_nil : IsTrimmed [] where
  first _ h := by contradiction
  last _ h := by contradiction

/-- What trimming takes off is blank. -/
lemma exists_trim (cs : List Char) :
    ∃ before after, cs = before ++ trim cs ++ after ∧ IsBlank before ∧ IsBlank after := by
  refine ⟨cs.takeWhile isBlank, (trimLeft cs).rtakeWhile isBlank, ?_,
    fun c => List.mem_takeWhile_imp, fun c => List.mem_rtakeWhile_imp⟩
  have hright : trim cs ++ (trimLeft cs).rtakeWhile isBlank = trimLeft cs :=
    List.rdropWhile_append_rtakeWhile
  rw [List.append_assoc, hright]
  exact List.takeWhile_append_dropWhile.symm

lemma isTrimmed_trim (cs : List Char) : IsTrimmed (trim cs) where
  first c hc := by
    -- what is taken off on the right leaves the first character alone
    obtain ⟨rest, hrest⟩ : trim cs <+: trimLeft cs := List.rdropWhile_prefix isBlank (trimLeft cs)
    obtain ⟨tail, htail⟩ := List.head?_eq_some_iff.1 hc
    have hleft : cs.dropWhile isBlank = c :: (tail ++ rest) := by
      rw [← trimLeft, ← hrest, htail, List.cons_append]
    have hfirst := List.head?_dropWhile_not isBlank cs
    rw [hleft] at hfirst
    exact hfirst
  last c hc := by
    have hne : trim cs ≠ [] := by
      rintro hnil
      rw [hnil] at hc
      contradiction
    rw [List.getLast?_eq_some_getLast hne] at hc
    obtain rfl := Option.some.inj hc
    have hlast : ¬ isBlank ((trim cs).getLast hne) := List.rdropWhile_last_not isBlank _ hne
    simpa using hlast

/-- Blank characters around a text without any at its ends are what trimming takes off. -/
lemma trim_append_append (hmid : IsTrimmed mid) (hbefore : IsBlank before)
    (hafter : IsBlank after) :
    trim (before ++ mid ++ after) = mid := by
  have hleft : trimLeft (mid ++ after) = if mid = [] then [] else mid ++ after := by
    cases mid with
    | nil => exact List.dropWhile_eq_nil_iff.2 hafter
    | cons c mid =>
      rw [if_neg (List.cons_ne_nil _ _)]
      exact List.dropWhile_cons_of_neg (by simp [hmid.first c rfl])
  have hright : trimRight (mid ++ after) = mid := by
    unfold trimRight
    rw [List.reverse_append,
      List.dropWhile_append_of_pos fun c hc => hafter c (List.mem_reverse.1 hc)]
    cases hlast : mid.reverse with
    | nil => exact (List.reverse_eq_nil_iff.1 hlast).symm
    | cons c rest =>
      have hc : isBlank c = false := hmid.last c (by simp [← List.head?_reverse, hlast])
      rw [List.dropWhile_cons_of_neg (by simp [hc]), ← hlast, List.reverse_reverse]
  rw [trim, List.append_assoc, trimLeft, List.dropWhile_append_of_pos hbefore, ← trimLeft, hleft]
  split
  · next hnil => rw [hnil]; rfl
  · exact hright

/-- **Trimming takes the blank characters off both ends.** -/
theorem trim_eq_iff : trim cs = mid ↔
    IsTrimmed mid ∧
      ∃ before after, cs = before ++ mid ++ after ∧ IsBlank before ∧ IsBlank after := by
  constructor
  · rintro rfl
    exact ⟨isTrimmed_trim cs, exists_trim cs⟩
  · rintro ⟨hmid, before, after, rfl, hbefore, hafter⟩
    exact trim_append_append hmid hbefore hafter

lemma IsTrimmed.trim_eq (h : IsTrimmed cs) : trim cs = cs :=
  trim_eq_iff.2 ⟨h, [], [], by simp, isBlank_nil, isBlank_nil⟩

lemma trim_surrounded (cs : List Char) (hbefore : IsBlank before) (hafter : IsBlank after) :
    trim (before ++ cs ++ after) = trim cs := by
  obtain ⟨front, back, hcs, hfront, hback⟩ := exists_trim cs
  refine trim_eq_iff.2 ⟨isTrimmed_trim cs, before ++ front, back ++ after, ?_,
    hbefore.append hfront, hback.append hafter⟩
  conv_lhs => rw [hcs]
  simp only [List.append_assoc]

lemma trim_eq_nil_iff : trim cs = [] ↔ IsBlank cs := by
  constructor
  · intro h
    obtain ⟨before, after, hcs, hbefore, hafter⟩ := exists_trim cs
    rw [hcs, h, List.append_nil]
    exact hbefore.append hafter
  · intro h
    exact trim_eq_iff.2 ⟨isTrimmed_nil, cs, [], by simp, h, isBlank_nil⟩

lemma mem_of_mem_trim {c : Char} (h : c ∈ trim cs) : c ∈ cs := by
  obtain ⟨before, after, hcs, -, -⟩ := exists_trim cs
  rw [hcs]
  exact List.mem_append_left _ (List.mem_append_right _ h)

/-! ### Lines -/

lemma trim_dropReturn (line : List Char) : trim (lines.dropReturn line) = trim line := by
  unfold lines.dropReturn
  split
  · next kept hline =>
    have hreturn : IsBlank ['\r'] := isBlank_singleton (by decide)
    rw [← trim_surrounded kept.reverse isBlank_nil hreturn, List.nil_append,
      ← List.reverse_singleton, ← List.reverse_append, List.singleton_append, ← hline,
      List.reverse_reverse]
  · rfl

/-- The trimmed lines of a text are the trimmed pieces between its line feeds, but for an empty one
at the end. -/
lemma map_trim_lines (s : String) : ∃ last, last <+: [[]] ∧
    (split '\n' s.toList).map trim = (lines s).map trim ++ last := by
  unfold lines
  induction split '\n' s.toList with
  | nil => exact ⟨[], List.nil_prefix, rfl⟩
  | cons line rest ih =>
    cases rest with
    | nil =>
      cases line with
      | nil => exact ⟨[[]], List.prefix_rfl, rfl⟩
      | cons c line => exact ⟨[], List.nil_prefix, rfl⟩
    | cons next rest =>
      obtain ⟨last, hlast, hrest⟩ := ih
      refine ⟨last, hlast, ?_⟩
      have hgo : lines.go (line :: next :: rest)
          = lines.dropReturn line :: lines.go (next :: rest) := by simp [lines.go]
      rw [hgo, List.map_cons, hrest, List.map_cons, trim_dropReturn, List.cons_append]

end EdgeNode.Text
