import EdgeNode.Json.Reader
import EdgeNode.Proofs.Bytes
import Mathlib.Tactic.IntervalCases
/-!
# Whole numbers

A whole number of at most 64 bits that was written in decimal is read back, if what follows cannot
belong to a number.
-/

namespace EdgeNode.Json

/-- The bytes of a number in decimal. -/
def decimal (n : Nat) : Bytes :=
  (Nat.toDigits 10 n).map fun c => UInt8.ofNat c.toNat

/-- What follows is no part of a number. -/
def EndsNumber (rest : Bytes) : Prop :=
  ∀ b ∈ rest.head?, isDigit b = false ∧ b ≠ 46 ∧ b ≠ 101 ∧ b ≠ 69

lemma ofText_toString_nat (n : Nat) : Bytes.ofText (toString n) = decimal n := by
  have hdigits : ∀ cs : List Char, (∀ c ∈ cs, c.isDigit) →
      cs.flatMap String.utf8EncodeChar = cs.map fun c => UInt8.ofNat c.toNat := by
    intro cs hcs
    induction cs with
    | nil => rfl
    | cons c cs ih =>
      have hrange : c.val.toNat ≤ 127 := by
        have h := hcs c List.mem_cons_self
        have h57 : c.toNat ≤ 57 := by
          simp [Char.isDigit, UInt32.le_iff_toNat_le] at h
          exact h.2
        exact Nat.le_trans h57 (by decide)
      rw [List.flatMap_cons, List.map_cons, ih fun d hd => hcs d (List.mem_cons_of_mem _ hd),
        String.utf8EncodeChar]
      simp only [if_pos hrange]
      rfl
  rw [Bytes.ofText_eq_flatMap, Nat.toString_eq_ofList_toDigits, String.toList_ofList, decimal]
  exact hdigits _ fun c hc => Nat.isDigit_of_mem_toDigits (by decide) (by decide) hc

/-- The digits of a number above nine are those of its tenth and one more. -/
lemma decimal_of_le {n : Nat} (h : 10 ≤ n) :
    decimal n = decimal (n / 10) ++ [UInt8.ofNat (48 + n % 10)] := by
  have hdigit : ∀ d < 10, (Nat.digitChar d).toNat = 48 + d := by decide
  rw [decimal, Nat.toDigits_of_base_le (by decide) h, List.map_append, ← decimal]
  simp [hdigit (n % 10) (Nat.mod_lt _ (by decide))]

lemma decimal_of_lt {n : Nat} (h : n < 10) : decimal n = [UInt8.ofNat (48 + n)] := by
  have hdigit : ∀ d < 10, (Nat.digitChar d).toNat = 48 + d := by decide
  rw [decimal, Nat.toDigits_of_lt_base h]
  simp [hdigit n h]

/-! ### Reading -/

lemma finishWhole_of_ends (n : Nat) {rest : Bytes} (hrest : EndsNumber rest) :
    finishWhole true n rest = done (.int n) rest := by
  unfold finishWhole
  split
  · exact absurd rfl (hrest 46 rfl).2.1
  · exact absurd rfl (hrest 101 rfl).2.2.1
  · exact absurd rfl (hrest 69 rfl).2.2.2
  · rfl

lemma wholeDigits_of_ends (n : Nat) {rest : Bytes} (hrest : EndsNumber rest) :
    wholeDigits true n rest = done (.int n) rest := by
  cases rest with
  | nil => rfl
  | cons c rest =>
    have hc : isDigit c = false := (hrest c rfl).1
    rw [wholeDigits, hc]
    exact finishWhole_of_ends n hrest

lemma isDigit_ofNat {d : Nat} (h : d < 10) : isDigit (UInt8.ofNat (48 + d)) := by
  interval_cases d <;> rfl

lemma toNat_ofNat_digit {d : Nat} (h : d < 10) : (UInt8.ofNat (48 + d)).toNat - 48 = d := by
  interval_cases d <;> rfl

/-- The digits of a number other than zero are taken one after another. -/
lemma unsigned_decimal {n : Nat} (hpos : 0 < n) (hn : n < 2 ^ 64) (rest : Bytes) :
    unsigned true (decimal n ++ rest) = wholeDigits true n rest := by
  induction n using Nat.strongRecOn generalizing rest with
  | ind n ih =>
    by_cases h : n < 10
    · have hzero : UInt8.ofNat (48 + n) ≠ 48 := by
        interval_cases n <;> decide
      rw [decimal_of_lt h, List.singleton_append, unsigned, if_pos (isDigit_ofNat h),
        toNat_ofNat_digit h]
      exact hzero
    · have hlast : n % 10 < 10 := Nat.mod_lt n (by decide)
      have hnext : n / 10 * 10 + n % 10 = n := Nat.div_add_mod' n 10
      rw [decimal_of_le (Nat.le_of_not_lt h), List.append_assoc, List.singleton_append,
        ih (n / 10) (by omega) (by omega) (by omega), wholeDigits]
      simp only [isDigit_ofNat hlast, toNat_ofNat_digit hlast, hnext, if_true]
      rw [if_neg (by omega)]

lemma exists_decimal_eq_cons (n : Nat) : ∃ d ds, decimal n = d :: ds ∧ isDigit d := by
  induction n using Nat.strongRecOn with
  | ind n ih =>
    by_cases h : n < 10
    · exact ⟨_, [], decimal_of_lt h, isDigit_ofNat h⟩
    · obtain ⟨d, ds, hds, hd⟩ := ih (n / 10) (by omega)
      exact ⟨d, _, by rw [decimal_of_le (Nat.le_of_not_lt h), hds, List.cons_append], hd⟩

lemma number_decimal {n : Nat} (hn : n < 2 ^ 64) {rest : Bytes} (hrest : EndsNumber rest) :
    number (decimal n ++ rest) = done (.int n) rest := by
  have hsign : number (decimal n ++ rest) = unsigned true (decimal n ++ rest) := by
    obtain ⟨d, ds, hds, hd⟩ := exists_decimal_eq_cons n
    rw [hds, List.cons_append, number]
    intro rest' h
    rw [(List.cons.inj h).1] at hd
    exact absurd hd (by decide)
  rw [hsign]
  by_cases hpos : 0 < n
  · rw [unsigned_decimal hpos hn, wholeDigits_of_ends n hrest]
  · obtain rfl : n = 0 := by omega
    cases rest with
    | nil => rfl
    | cons c rest =>
      have hc : isDigit c = false := (hrest c rfl).1
      have hzero : unsigned true (48 :: c :: rest)
          = if isDigit c then fail (c :: rest) else finishWhole true 0 (c :: rest) := rfl
      rw [decimal_of_lt (by decide), List.singleton_append, Nat.add_zero]
      exact hzero.trans (by rw [hc]; exact finishWhole_of_ends 0 hrest)

/-! ### As values -/

/-- A digit is no blank and opens nothing. -/
lemma ne_of_isDigit {d : UInt8} (h : isDigit d) :
    isSpace d = false ∧ d ≠ 110 ∧ d ≠ 116 ∧ d ≠ 102 ∧ d ≠ 34 ∧ d ≠ 91 ∧ d ≠ 123 := by
  refine ⟨?_, ?_, ?_, ?_, ?_, ?_, ?_⟩
  · rw [Bool.eq_false_iff]
    intro hspace
    simp only [isSpace, Bool.or_eq_true, beq_iff_eq] at hspace
    rcases hspace with ((rfl | rfl) | rfl) | rfl <;> exact absurd h (by decide)
  all_goals
    rintro rfl
    exact absurd h (by decide)

/-- **A whole number is read back as a value.** -/
theorem value_decimal (depth : Nat) {n : Nat} (hn : n < 2 ^ 64) {rest : Bytes}
    (hrest : EndsNumber rest) : value depth (decimal n ++ rest) = done (.int n) rest := by
  have hnumber := number_decimal hn hrest
  obtain ⟨d, ds, hds, hd⟩ := exists_decimal_eq_cons n
  obtain ⟨hspace, h110, h116, h102, h34, h91, h123⟩ := ne_of_isDigit hd
  rw [hds, List.cons_append] at hnumber ⊢
  have hskip : skipSpace (d :: (ds ++ rest)) = d :: (ds ++ rest) := by
    rw [skipSpace, List.dropWhile_cons, hspace]
    rfl
  rw [value, written, fuelFor, readValue.eq_def]
  simp [hskip, hd, hnumber]
  rfl

end EdgeNode.Json
