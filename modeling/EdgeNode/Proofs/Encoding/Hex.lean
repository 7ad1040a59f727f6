import EdgeNode.Encoding.Hex
import EdgeNode.Proofs.Bytes
import Mathlib.Tactic.IntervalCases
/-!
# Digits and the bytes they spell

A character stands for a number as a digit when its lower-case form is the digit that is written for
it, and two digits spell a byte (`Hex.Spells`).  A text is decoded just when it is spelled that way
from its first character to its last (`Hex.decode_eq_ok_iff`).  The bytes are written again in the
lower-case form of the text, and what was written is always read back.
-/

namespace EdgeNode.Encoding.Hex

/-- A hexadecimal digit of either case. -/
def IsDigit (c : Char) : Prop :=
  ('0' ≤ c ∧ c ≤ '9') ∨ ('a' ≤ c ∧ c ≤ 'f') ∨ ('A' ≤ c ∧ c ≤ 'F')

instance : DecidablePred IsDigit := fun _ => inferInstanceAs (Decidable (_ ∨ _ ∨ _))

/-- A character stands for a number. -/
def Stands (c : Char) (n : ℕ) : Prop :=
  n < 16 ∧ c.toLower = digit n

/-- Characters spell bytes, two for each. -/
inductive Spells : List Char → Bytes → Prop
  | nil : Spells [] []
  | cons {c d : Char} {n m : ℕ} {cs : List Char} {bs : Bytes} (hc : Stands c n)
      (hd : Stands d m) (hrest : Spells cs bs) :
      Spells (c :: d :: cs) (UInt8.ofNat (n * 16 + m) :: bs)

variable {c : Char} {n : ℕ} {cs : List Char} {b : UInt8} {bs : Bytes} {s : String}

/-! ### Digits -/

lemma toNat_digit (h : n < 16) : (digit n).toNat = if n < 10 then 48 + n else 87 + n := by
  interval_cases n <;> rfl

lemma toNat_toLower (c : Char) :
    c.toLower.toNat = if 65 ≤ c.toNat ∧ c.toNat ≤ 90 then c.toNat + 32 else c.toNat := by
  have hcase : (c.val ≥ 'A'.val ∧ c.val ≤ 'Z'.val) ↔ 65 ≤ c.toNat ∧ c.toNat ≤ 90 := Iff.rfl
  unfold Char.toLower
  by_cases h : c.val ≥ 'A'.val ∧ c.val ≤ 'Z'.val
  · have hrange := hcase.1 h
    rw [dif_pos h, if_pos hrange]
    show (c.val + ('a'.val - 'A'.val)).toNat = c.val.toNat + 32
    have hle : c.val.toNat ≤ 90 := hrange.2
    rw [UInt32.toNat_add]
    show (c.val.toNat + 32) % 2 ^ 32 = c.val.toNat + 32
    omega
  · rw [dif_neg h, if_neg fun hrange => h (hcase.2 hrange)]

/-- The digits are in three ranges, and each stands for how far it is into its own. -/
lemma stands_iff : Stands c n ↔
    (48 ≤ c.toNat ∧ c.toNat ≤ 57 ∧ c.toNat = n + 48) ∨
      (97 ≤ c.toNat ∧ c.toNat ≤ 102 ∧ c.toNat = n + 87) ∨
      (65 ≤ c.toNat ∧ c.toNat ≤ 70 ∧ c.toNat = n + 55) := by
  have hlower := toNat_toLower c
  constructor
  · rintro ⟨hn, heq⟩
    have hdigit := toNat_digit hn
    rw [← heq, hlower] at hdigit
    split_ifs at hdigit <;> omega
  · intro h
    have hn : n < 16 := by omega
    refine ⟨hn, Char.toNat_inj.1 ?_⟩
    rw [hlower, toNat_digit hn]
    split_ifs <;> omega

lemma isDigit_iff_exists : IsDigit c ↔ ∃ n, Stands c n := by
  have hranges : IsDigit c ↔ (48 ≤ c.toNat ∧ c.toNat ≤ 57) ∨ (97 ≤ c.toNat ∧ c.toNat ≤ 102) ∨
      (65 ≤ c.toNat ∧ c.toNat ≤ 70) := Iff.rfl
  simp only [hranges, stands_iff]
  constructor
  · rintro (h | h | h)
    · exact ⟨c.toNat - 48, by omega⟩
    · exact ⟨c.toNat - 87, by omega⟩
    · exact ⟨c.toNat - 55, by omega⟩
  · rintro ⟨n, h⟩
    omega

lemma stands_digit (h : n < 16) : Stands (digit n) n := by
  have hdigit := toNat_digit h
  rw [stands_iff]
  split_ifs at hdigit <;> omega

/-! ### Bytes of digits -/

lemma value?_eq_some_iff : value? b = some n ↔
    (48 ≤ b.toNat ∧ b.toNat ≤ 57 ∧ b.toNat = n + 48) ∨
      (97 ≤ b.toNat ∧ b.toNat ≤ 102 ∧ b.toNat = n + 87) ∨
      (65 ≤ b.toNat ∧ b.toNat ≤ 70 ∧ b.toNat = n + 55) := by
  simp only [value?, Bool.and_eq_true, decide_eq_true_eq]
  split_ifs <;> simp only [Option.some.injEq, false_iff] <;> omega

/-- A character is a digit just when its first byte is one, and then it has no other. -/
lemma exists_head (c : Char) : ∃ b bs, String.utf8EncodeChar c = b :: bs ∧
    (∀ n, value? b = some n ↔ Stands c n) ∧ ∀ n, Stands c n → bs = [] := by
  have hlt := Bytes.val_toNat_lt c
  simp only [stands_iff, value?_eq_some_iff]
  unfold String.utf8EncodeChar Char.toNat
  generalize c.val.toNat = v at hlt ⊢
  dsimp only
  split_ifs
  · refine ⟨_, _, rfl, fun n => ?_, fun _ _ => rfl⟩
    rw [UInt8.toNat_ofNat']
    omega
  all_goals
    refine ⟨_, _, rfl, fun n => ?_, fun n h => ?_⟩
    · rw [UInt8.toNat_ofNat']
      omega
    · omega

lemma exists_byte (h : Stands c n) :
    ∃ b, String.utf8EncodeChar c = [b] ∧ value? b = some n := by
  obtain ⟨b, bs, hbytes, hvalue, honly⟩ := exists_head c
  obtain rfl := honly n h
  exact ⟨b, hbytes, (hvalue n).2 h⟩

/-- Bytes that are decoded begin with two digits. -/
lemma decodeFrom_cons_eq_ok {i : ℕ} {rest : Bytes} (h : decodeFrom i (b :: rest) = .ok bs) :
    ∃ hi d rest' lo bs', value? b = some hi ∧ rest = d :: rest' ∧ value? d = some lo ∧
      decodeFrom (i + 2) rest' = .ok bs' ∧ bs = UInt8.ofNat (hi * 16 + lo) :: bs' := by
  cases rest with
  | nil => contradiction
  | cons d rest' =>
    rw [decodeFrom] at h
    split at h
    · contradiction
    · next hi hhi =>
      split at h
      · contradiction
      · next lo hlo =>
        split at h
        · contradiction
        · next bs' hrest =>
          exact ⟨hi, d, rest', lo, bs', hhi, rfl, hlo, hrest, (Except.ok.inj h).symm⟩

lemma spells_of_decodeFrom : ∀ {cs : List Char} {bs : Bytes} {i : ℕ},
    decodeFrom i (cs.flatMap String.utf8EncodeChar) = .ok bs → Spells cs bs
  | [], bs, i, h => by
    obtain rfl := Except.ok.inj h
    exact .nil
  | c :: rest, bs, i, h => by
    obtain ⟨b, tail, hbytes, hvalue, honly⟩ := exists_head c
    rw [List.flatMap_cons, hbytes, List.cons_append] at h
    obtain ⟨hi, byte, after, lo, bs', hhi, hafter, hlo, hrest, rfl⟩ := decodeFrom_cons_eq_ok h
    have hc : Stands c hi := (hvalue hi).1 hhi
    rw [honly hi hc, List.nil_append] at hafter
    match rest with
    | [] => contradiction
    | d :: rest' =>
      obtain ⟨b', tail', hbytes', hvalue', honly'⟩ := exists_head d
      rw [List.flatMap_cons, hbytes', List.cons_append] at hafter
      obtain ⟨rfl, hrest'⟩ := List.cons.inj hafter
      have hd : Stands d lo := (hvalue' lo).1 hlo
      rw [honly' lo hd, List.nil_append] at hrest'
      rw [← hrest'] at hrest
      exact .cons hc hd (spells_of_decodeFrom hrest)

namespace Spells

lemma length_eq (h : Spells cs bs) : cs.length = 2 * bs.length := by
  induction h with
  | nil => rfl
  | cons _ _ _ ih =>
    simp only [List.length_cons, ih]
    omega

lemma isDigit (h : Spells cs bs) : ∀ c ∈ cs, IsDigit c := by
  induction h with
  | nil => simp
  | cons hc hd _ ih =>
    intro x hx
    simp only [List.mem_cons] at hx
    rcases hx with rfl | rfl | hx
    · exact isDigit_iff_exists.2 ⟨_, hc⟩
    · exact isDigit_iff_exists.2 ⟨_, hd⟩
    · exact ih x hx

lemma decodeFrom_eq (h : Spells cs bs) (i : ℕ) :
    decodeFrom i (cs.flatMap String.utf8EncodeChar) = .ok bs := by
  induction h generalizing i with
  | nil => rfl
  | cons hc hd _ ih =>
    obtain ⟨b, hb, hhi⟩ := exists_byte hc
    obtain ⟨b', hb', hlo⟩ := exists_byte hd
    simp only [List.flatMap_cons, hb, hb', List.cons_append, List.nil_append, decodeFrom, hhi, hlo,
      ih]

lemma length_bytes (h : Spells cs bs) :
    (cs.flatMap String.utf8EncodeChar).length = 2 * bs.length := by
  induction h with
  | nil => rfl
  | cons hc hd _ ih =>
    obtain ⟨b, hb, -⟩ := exists_byte hc
    obtain ⟨b', hb', -⟩ := exists_byte hd
    simp only [List.flatMap_cons, hb, hb', List.length_append, List.length_cons, List.length_nil,
      ih]
    omega

/-- What is written for the bytes is what they are spelled with, in lower case. -/
lemma encodeChars_eq (h : Spells cs bs) : encodeChars bs = cs.map Char.toLower := by
  induction h with
  | nil => rfl
  | @cons c d n m cs bs hc hd _ ih =>
    obtain ⟨hn, hc⟩ := hc
    obtain ⟨hm, hd⟩ := hd
    have hbyte : (UInt8.ofNat (n * 16 + m)).toNat = n * 16 + m := by
      rw [UInt8.toNat_ofNat']
      omega
    have hdiv : (n * 16 + m) / 16 = n := by omega
    have hmod : (n * 16 + m) % 16 = m := by omega
    simp only [encodeChars, hbyte, hdiv, hmod, List.map_cons, hc, hd, ih]

end Spells

lemma spells_encodeChars (bs : Bytes) : Spells (encodeChars bs) bs := by
  induction bs with
  | nil => exact .nil
  | cons b bs ih =>
    have hb : b.toNat < 256 := b.toNat_lt
    have hhalves : b.toNat / 16 * 16 + b.toNat % 16 = b.toNat := by omega
    have hspells := Spells.cons (stands_digit (n := b.toNat / 16) (by omega))
      (stands_digit (n := b.toNat % 16) (by omega)) ih
    rw [hhalves, UInt8.ofNat_toNat] at hspells
    exact hspells

/-- Digits in pairs spell bytes. -/
lemma exists_spells {k : ℕ} (hlength : cs.length = 2 * k) (hdigits : ∀ c ∈ cs, IsDigit c) :
    ∃ bs, Spells cs bs := by
  induction k generalizing cs with
  | zero =>
    obtain rfl := List.eq_nil_of_length_eq_zero hlength
    exact ⟨[], .nil⟩
  | succ k ih =>
    match cs with
    | [] => simp at hlength
    | [_] => simp at hlength; omega
    | c :: d :: rest =>
      obtain ⟨n, hc⟩ := isDigit_iff_exists.1 (hdigits c (by simp))
      obtain ⟨m, hd⟩ := isDigit_iff_exists.1 (hdigits d (by simp))
      have hrest : rest.length = 2 * k := by
        simp only [List.length_cons] at hlength
        omega
      obtain ⟨bs, hspells⟩ := ih hrest fun x hx => hdigits x (by simp [hx])
      exact ⟨_, .cons hc hd hspells⟩

/-! ### Texts -/

/-- **A text is decoded just when digits spell it, two for each byte.** -/
theorem decode_eq_ok_iff : decode s = .ok bs ↔ Spells s.toList bs := by
  unfold decode
  rw [Bytes.ofText_eq_flatMap]
  dsimp only
  constructor
  · intro h
    split at h
    · contradiction
    · exact spells_of_decodeFrom h
  · intro h
    have heven : ¬ (s.toList.flatMap String.utf8EncodeChar).length % 2 = 1 := by
      rw [h.length_bytes]
      omega
    rw [if_neg heven]
    exact h.decodeFrom_eq 0

/-- Bytes that were written are read back. -/
theorem decode_encode (bs : Bytes) : decode (encode bs) = .ok bs := by
  rw [decode_eq_ok_iff, encode, String.toList_ofList]
  exact spells_encodeChars bs

/-- What was read is written in lower case. -/
theorem encode_of_decode (h : decode s = .ok bs) : encode bs = s.toLower := by
  show String.ofList (encodeChars bs) = s.map Char.toLower
  rw [(decode_eq_ok_iff.1 h).encodeChars_eq, String.map_eq_internal]

end EdgeNode.Encoding.Hex
