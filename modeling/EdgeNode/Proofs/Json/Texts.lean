import EdgeNode.Json.Printer
import EdgeNode.Json.Reader
import EdgeNode.Proofs.Bytes
import Mathlib.Tactic.IntervalCases
/-!
# Texts between quotes

A text that was written between quotes is read back.  Characters are escaped one at a time, and the
reader takes the bytes of one character after another: `textBytes_escape` is the step for one.
-/

namespace EdgeNode.Json

/-- The bytes of characters. -/
def encoded (cs : List Char) : Bytes :=
  cs.flatMap String.utf8EncodeChar

lemma encoded_append (cs ds : List Char) : encoded (cs ++ ds) = encoded cs ++ encoded ds :=
  List.flatMap_append

lemma encoded_cons (c : Char) (cs : List Char) :
    encoded (c :: cs) = String.utf8EncodeChar c ++ encoded cs :=
  List.flatMap_cons

/-- A byte that stands for itself between quotes. -/
def IsPlain (b : UInt8) : Prop :=
  b ≠ 34 ∧ b ≠ 92 ∧ ¬ b < 32

lemma textBytes_plain {bs : Bytes} (h : ∀ b ∈ bs, IsPlain b) (fuel : Nat) (acc rest : Bytes) :
    textBytes (bs.length + fuel) acc (bs ++ rest) = textBytes fuel (bs.reverse ++ acc) rest := by
  induction bs generalizing acc with
  | nil => simp
  | cons b bs ih =>
    obtain ⟨hquote, hslash, hcontrol⟩ := h b List.mem_cons_self
    have hfuel : (b :: bs).length + fuel = (bs.length + fuel) + 1 := by
      rw [List.length_cons]
      omega
    rw [hfuel, List.cons_append, textBytes.eq_def]
    simp only [if_neg hquote, if_neg hslash, if_neg hcontrol]
    rw [ih (fun b hb => h b (List.mem_cons_of_mem _ hb)), List.reverse_cons, List.append_assoc]
    rfl

/-- The encoding of a character that needs no escape is plain. -/
lemma isPlain_of_mem_utf8EncodeChar {c : Char} (hquote : c ≠ '"') (hslash : c ≠ '\\')
    (hcontrol : ¬ c.toNat < 32) : ∀ b ∈ String.utf8EncodeChar c, IsPlain b := by
  have h34 : c.val.toNat ≠ 34 := fun h => hquote (Char.ext (UInt32.toNat_inj.1 h))
  have h92 : c.val.toNat ≠ 92 := fun h => hslash (Char.ext (UInt32.toNat_inj.1 h))
  have h32 : ¬ c.val.toNat < 32 := hcontrol
  have hlt : c.val.toNat < 1114112 := Bytes.val_toNat_lt c
  intro b hb
  unfold String.utf8EncodeChar at hb
  generalize c.val.toNat = v at *
  obtain ⟨v₁, v₂, v₃, v₄, _, _, _, _, hv, hv₁, hv₂, hv₃, hv₄⟩ :=
    Bytes.exists_digits (by omega : v < _)
  dsimp only at hb
  unfold IsPlain
  simp only [ne_eq, ← UInt8.toNat_inj, UInt8.lt_iff_toNat_lt]
  split_ifs at hb <;>
    simp only [hv₁, hv₂, hv₃, hv₄, List.mem_cons, List.not_mem_nil, or_false] at hb
  · subst hb
    simp
    omega
  · rcases hb with rfl | rfl <;> simp <;> omega
  · rcases hb with rfl | rfl | rfl <;> simp <;> omega
  · rcases hb with rfl | rfl | rfl | rfl <;> simp <;> omega

/-! ### Escapes -/

/-- The bytes of a control character that has no letter of its own are read back. -/
lemma unicodeEscape_control {n : Nat} (h : n < 32) (rest : Bytes) :
    unicodeEscape (encoded ['0', '0', Nat.digitChar (n / 16), Nat.digitChar (n % 16)] ++ rest)
      = done (Bytes.ofText (Char.ofNat n).toString) rest := by
  interval_cases n <;> rfl

lemma ofText_singleton (c : Char) :
    Bytes.ofText (String.singleton c) = String.utf8EncodeChar c := by
  rw [Bytes.ofText_eq_flatMap, String.toList_singleton]
  exact List.flatMap_singleton _ _

/-- How an escape for one character is read: with no more fuel than it has bytes. -/
def ReadsBack (c : Char) (bytes : Bytes) : Prop :=
  ∀ fuel acc rest, bytes.length ≤ fuel → ∃ fuel', fuel ≤ fuel' + bytes.length ∧
    textBytes fuel acc (bytes ++ rest)
      = textBytes fuel' ((String.utf8EncodeChar c).reverse ++ acc) rest

lemma readsBack_letter {c : Char} {b x : UInt8} (hc : String.utf8EncodeChar c = [x])
    (hx : simpleEscape? b = some x) : ReadsBack c [92, b] := by
  intro fuel acc rest hfuel
  obtain ⟨fuel, rfl⟩ := Nat.exists_eq_add_of_le' (Nat.lt_of_lt_of_le Nat.zero_lt_two hfuel)
  have hb : b ≠ 117 := by
    rintro rfl
    simp [simpleEscape?] at hx
  refine ⟨fuel, by simp, ?_⟩
  rw [textBytes.eq_def, hc]
  simp [hx]

lemma readsBack_control {c : Char} (h : c.toNat < 32) :
    ReadsBack c (92 :: 117 ::
      encoded ['0', '0', Nat.digitChar (c.toNat / 16), Nat.digitChar (c.toNat % 16)]) := by
  intro fuel acc rest hfuel
  rw [List.length_cons] at hfuel
  obtain ⟨fuel, rfl⟩ := Nat.exists_eq_add_of_le' (Nat.lt_of_lt_of_le (Nat.succ_pos _) hfuel)
  refine ⟨fuel, by simp, ?_⟩
  rw [textBytes.eq_def]
  simp [unicodeEscape_control h, done, Read.bind, ofText_singleton]

lemma readsBack_plain {c : Char} (hquote : c ≠ '"') (hslash : c ≠ '\\')
    (hcontrol : ¬ c.toNat < 32) :
    ReadsBack c (String.utf8EncodeChar c) := by
  intro fuel acc rest hfuel
  obtain ⟨fuel, rfl⟩ := Nat.exists_eq_add_of_le hfuel
  exact ⟨fuel, by omega,
    textBytes_plain (isPlain_of_mem_utf8EncodeChar hquote hslash hcontrol) fuel acc rest⟩

/-- Every character is read back from its escape. -/
lemma readsBack_escape (c : Char) : ReadsBack c (encoded (escape c)) := by
  unfold escape
  by_cases hquote : c = '"'
  · rw [if_pos hquote, hquote]
    exact readsBack_letter rfl rfl
  by_cases hslash : c = '\\'
  · rw [if_neg hquote, if_pos hslash, hslash]
    exact readsBack_letter rfl rfl
  rw [if_neg hquote, if_neg hslash]
  split_ifs with hn hr ht hb hf hcontrol
  · rw [hn]
    exact readsBack_letter rfl rfl
  · rw [hr]
    exact readsBack_letter rfl rfl
  · rw [ht]
    exact readsBack_letter rfl rfl
  · have hc : String.utf8EncodeChar c = [8] := by
      rw [← Char.ofNat_toNat c, hb]
      rfl
    exact readsBack_letter hc rfl
  · have hc : String.utf8EncodeChar c = [12] := by
      rw [← Char.ofNat_toNat c, hf]
      rfl
    exact readsBack_letter hc rfl
  · exact readsBack_control hcontrol
  · rw [encoded_cons]
    simpa [encoded] using readsBack_plain hquote hslash hcontrol

/-! ### Texts -/

lemma textBytes_quoted (cs : List Char) {fuel : Nat} (acc rest : Bytes)
    (hfuel : (encoded (cs.flatMap escape)).length < fuel) :
    textBytes fuel acc (encoded (cs.flatMap escape) ++ 34 :: rest)
      = done ((encoded cs).reverse ++ acc) rest := by
  induction cs generalizing fuel acc with
  | nil =>
    obtain ⟨fuel, rfl⟩ := Nat.exists_eq_add_of_le' (Nat.lt_of_le_of_lt (Nat.zero_le _) hfuel)
    rw [textBytes.eq_def]
    rfl
  | cons c cs ih =>
    rw [List.flatMap_cons, encoded_append, List.length_append] at hfuel
    obtain ⟨fuel', hleft, hstep⟩ := readsBack_escape c fuel acc
      (encoded (cs.flatMap escape) ++ 34 :: rest) (by omega)
    rw [List.flatMap_cons, encoded_append, List.append_assoc, hstep, ih _ (by omega), encoded_cons,
      List.reverse_append, List.append_assoc]

lemma ofText_ofList (cs : List Char) : Bytes.ofText (String.ofList cs) = encoded cs := by
  rw [Bytes.ofText_eq_flatMap, String.toList_ofList]
  rfl

/-- The bytes of a text between quotes. -/
lemma ofText_quote (s : String) :
    Bytes.ofText (quote s) = 34 :: (encoded (s.toList.flatMap escape) ++ [34]) := by
  have hmark : Bytes.ofText "\"" = [34] := by decide
  rw [quote, Bytes.ofText_append, Bytes.ofText_append, ofText_ofList (s.toList.flatMap escape),
    hmark, List.append_assoc]
  rfl

/-- **A text between quotes is read back**, whatever its characters are. -/
theorem text_quoted (s : String) (rest : Bytes) :
    text (encoded (s.toList.flatMap escape) ++ 34 :: rest) = done s rest := by
  have hbytes : (encoded s.toList).reverse.reverse = Bytes.ofText s := by
    rw [List.reverse_reverse, Bytes.ofText_eq_flatMap]
    rfl
  have hlength : (encoded (s.toList.flatMap escape)).length
      < (encoded (s.toList.flatMap escape) ++ 34 :: rest).length + 1 := by
    rw [List.length_append, List.length_cons]
    omega
  rw [text, textBytes_quoted _ _ _ hlength, List.append_nil]
  simp only [Read.bind, done, hbytes, Bytes.text?_ofText]

/-- A text between quotes is read back as a value. -/
theorem value_quote (depth : Nat) (s : String) (rest : Bytes) :
    value depth (Bytes.ofText (quote s) ++ rest) = done (.str s) rest := by
  have htext := text_quoted s rest
  have hskip : ∀ b : Bytes, skipSpace (34 :: b) = 34 :: b := fun _ => rfl
  rw [ofText_quote, List.cons_append, List.append_assoc, List.singleton_append, value, written,
    fuelFor, readValue.eq_def]
  simp only [hskip, htext]
  rfl

end EdgeNode.Json
