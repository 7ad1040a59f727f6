import EdgeNode.Bytes
import Mathlib.Data.List.Basic
import Mathlib.Data.Nat.Basic
import Mathlib.Order.Basic
/-!
# Texts and their bytes

A text is encoded character by character, and the encodings of two texts compare the way the texts
do: by code point.
-/

namespace EdgeNode.Bytes

lemma ofText_eq_flatMap (s : String) : ofText s = s.toList.flatMap String.utf8EncodeChar := by
  rw [ofText, String.toUTF8_eq_toByteArray, ← String.utf8Encode_toList, List.utf8Encode]
  simp

@[simp] lemma ofText_append (s t : String) : ofText (s ++ t) = ofText s ++ ofText t := by
  simp only [ofText_eq_flatMap, String.toList_append, List.flatMap_append]

/-! ### The order -/

/-- The digits that the bytes of an encoding carry. -/
lemma exists_digits {v : Nat} (h : v < 2097152) :
    ∃ a b c d, a < 8 ∧ b < 64 ∧ c < 64 ∧ d < 64 ∧ v = 262144 * a + 4096 * b + 64 * c + d ∧
      v / 262144 % 8 = a ∧ v / 4096 % 64 = b ∧ v / 64 % 64 = c ∧ v % 64 = d :=
  ⟨v / 262144 % 8, v / 4096 % 64, v / 64 % 64, v % 64, by omega, by omega, by omega, by omega,
    by omega, rfl, rfl, rfl, rfl⟩

lemma val_toNat_lt (c : Char) : c.val.toNat < 1114112 := by
  have h := c.valid
  simp only [UInt32.isValidChar, Nat.isValidChar] at h
  omega

/-- The encodings of two characters differ, and where they first do, the greater character has the
greater byte. -/
lemma utf8EncodeChar_append_lt {c d : Char} (h : c < d) (x y : Bytes) :
    String.utf8EncodeChar c ++ x < String.utf8EncodeChar d ++ y := by
  have hlt : c.val.toNat < d.val.toNat := h
  have hc := val_toNat_lt c
  have hd := val_toNat_lt d
  unfold String.utf8EncodeChar
  generalize c.val.toNat = v at hlt hc ⊢
  generalize d.val.toNat = w at hlt hd ⊢
  dsimp only
  obtain ⟨v₁, v₂, v₃, v₄, _, _, _, _, hv, hv₁, hv₂, hv₃, hv₄⟩ := exists_digits (by omega : v < _)
  obtain ⟨w₁, w₂, w₃, w₄, _, _, _, _, hw, hw₁, hw₂, hw₃, hw₄⟩ := exists_digits (by omega : w < _)
  -- one case for every two lengths that the encodings can have
  split_ifs <;>
    simp only [List.cons_append, List.nil_append, List.cons_lt_cons_iff, UInt8.lt_iff_toNat_lt,
      ← UInt8.toNat_inj, UInt8.toNat_ofNat', hv₁, hv₂, hv₃, hv₄, hw₁, hw₂, hw₃, hw₄] <;>
    clear hv₁ hv₂ hv₃ hv₄ hw₁ hw₂ hw₃ hw₄ <;>
    omega

lemma flatMap_lt {s t : List Char} (h : s < t) :
    s.flatMap String.utf8EncodeChar < t.flatMap String.utf8EncodeChar := by
  induction s generalizing t with
  | nil =>
    cases t with
    | nil => exact absurd h (List.lt_irrefl [])
    | cons d t =>
      have hsome : String.utf8EncodeChar d ≠ [] := by
        unfold String.utf8EncodeChar
        dsimp only
        split_ifs <;> exact List.cons_ne_nil _ _
      obtain ⟨b, bs, hbs⟩ := List.exists_cons_of_ne_nil hsome
      rw [List.flatMap_cons, hbs]
      exact List.nil_lt_cons _ _
  | cons c s ih =>
    cases t with
    | nil => exact absurd h (List.not_lt_nil _)
    | cons d t =>
      rw [List.flatMap_cons, List.flatMap_cons]
      rcases List.cons_lt_cons_iff.1 h with hlt | ⟨rfl, hlt⟩
      · exact utf8EncodeChar_append_lt hlt _ _
      · exact List.append_left_lt (ih hlt)

lemma ofText_lt {s t : String} (h : s < t) : ofText s < ofText t := by
  rw [ofText_eq_flatMap, ofText_eq_flatMap]
  exact flatMap_lt (String.lt_iff.1 h)

/-- **Texts compare like their encodings.** -/
theorem ofText_le_iff {s t : String} : ofText s ≤ ofText t ↔ s ≤ t := by
  constructor
  · intro h hlt
    exact h (ofText_lt hlt)
  · intro h hlt
    by_cases heq : s = t
    · subst heq
      exact List.lt_irrefl _ hlt
    · have hst : s < t := String.not_le.1 fun hts => heq (String.le_antisymm h hts)
      exact List.lt_asymm hlt (ofText_lt hst)

end EdgeNode.Bytes
