import EdgeNode.Proofs.Calendar.Timestamps
import EdgeNode.Proofs.Json.Numbers
import EdgeNode.Proofs.Json.Texts
import EdgeNode.Replication.Cursor
/-!
# Cursors are read back

The document that a durable job writes for a message number holds that number.
-/

namespace EdgeNode.Cursor

open Json

lemma readSequence_decimal {n : Nat} (hn : n < 2 ^ 64) {rest : Bytes} (hrest : EndsNumber rest) :
    readSequence (decimal n ++ rest) = done n rest := by
  rw [readSequence, value_decimal _ hn hrest]
  simp [done, Read.bind]

lemma readUpdated_timestamp {now : Nat} (h : Calendar.HasDay now) (rest : Bytes) :
    readUpdated (Bytes.ofText (quote (Calendar.timestamp now)) ++ rest) = done () rest := by
  rw [readUpdated, value_quote]
  simp [done, Read.bind, Calendar.isTimestamp_timestamp h]

/-- The bytes behind the opening quote of a key, up to its colon. -/
def keyBytes (key : String) : Bytes :=
  encoded (key.toList.flatMap escape) ++ [34, 58]

lemma text_keyBytes (key : String) (rest : Bytes) :
    text (keyBytes key ++ rest) = done key (58 :: rest) := by
  rw [keyBytes, List.append_assoc]
  exact text_quoted key (58 :: rest)

/-- The bytes of a document. -/
lemma encode_eq (n now : Nat) :
    encode n now = 123 :: 34 :: (keyBytes "sequence" ++ (decimal n ++ 44 :: 34 ::
      (keyBytes "updated" ++ (Bytes.ofText (quote (Calendar.timestamp now)) ++ [125])))) := by
  have hopen : Bytes.ofText "\x7b\"sequence\":" = 123 :: 34 :: keyBytes "sequence" := by
    decide +kernel
  have hmiddle : Bytes.ofText ",\"updated\":" = 44 :: 34 :: keyBytes "updated" := by
    decide +kernel
  have hclose : Bytes.ofText "\x7d" = [125] := by decide +kernel
  simp only [encode, Bytes.ofText_append, hopen, hmiddle, hclose, ofText_toString_nat,
    List.cons_append, List.append_assoc]

/-! ### Members -/

lemma readMembers_sequence (fuel : Nat) {n : Nat} (hn : n < 2 ^ 64) (rest : Bytes) :
    readMembers (fuel + 1) true {} (34 :: (keyBytes "sequence" ++ (decimal n ++ 44 :: rest)))
      = readMembers fuel false { sequence := some n } (44 :: rest) := by
  have hkey : ∀ b : Bytes, nextKey true (34 :: b) = done (some ()) b := fun _ => rfl
  have hcolon : ∀ b : Bytes, colon (58 :: b) = done () b := fun _ => rfl
  have hends : EndsNumber (44 :: rest) := by
    intro b hb
    obtain rfl := Option.some.inj hb
    decide
  rw [readMembers.eq_def]
  simp only [hkey, hcolon, text_keyBytes, readSequence_decimal hn hends, Read.bind, done, if_true]
  rfl

lemma readMembers_updated (fuel : Nat) {now : Nat} (h : Calendar.HasDay now) {fields : Fields}
    (hfields : fields.updated = false) (rest : Bytes) :
    readMembers (fuel + 1) false fields (44 :: 34 ::
        (keyBytes "updated" ++ (Bytes.ofText (quote (Calendar.timestamp now)) ++ rest)))
      = readMembers fuel false { fields with updated := true } rest := by
  have hkey : ∀ b : Bytes, nextKey false (44 :: 34 :: b) = done (some ()) b := fun _ => rfl
  have hcolon : ∀ b : Bytes, colon (58 :: b) = done () b := fun _ => rfl
  have hother : "updated" ≠ "sequence" := by decide
  rw [readMembers.eq_def]
  simp only [hkey, hcolon, text_keyBytes, readUpdated_timestamp h, Read.bind, done, if_neg hother,
    if_true, hfields]
  rfl

lemma readMembers_end (fuel : Nat) {n : Nat} {fields : Fields} (h : fields.sequence = some n) :
    readMembers (fuel + 1) false fields [125] = done n [] := by
  have hkey : nextKey false [125] = done none [125] := rfl
  have hend : endObject [125] = done () [] := rfl
  rw [readMembers.eq_def]
  simp only [hkey, hend, Read.bind, done, h]

/-- **A cursor is read back.** -/
theorem decode_encode {n now : Nat} (hn : n < 2 ^ 64) (h : Calendar.HasDay now) :
    decode (encode n now) = n := by
  have hopen : ∀ b : Bytes,
      decode (123 :: b) = (complete (readMembers (b.length + 1) true {} b)).getD 0 := fun _ => rfl
  have hread : ∀ fuel, readMembers (fuel + 3) true {} (34 :: (keyBytes "sequence" ++ (decimal n ++
      44 :: 34 :: (keyBytes "updated" ++
        (Bytes.ofText (quote (Calendar.timestamp now)) ++ [125]))))) = done n [] := by
    intro fuel
    rw [readMembers_sequence _ hn, readMembers_updated _ h rfl, readMembers_end _ rfl]
  have hlong : ∀ b : Bytes, ∃ fuel, (34 :: (keyBytes "sequence" ++ b)).length + 1 = fuel + 3 := by
    intro b
    refine ⟨(encoded ("sequence".toList.flatMap escape)).length + b.length + 1, ?_⟩
    simp only [keyBytes, List.length_cons, List.length_append, List.length_nil]
    omega
  obtain ⟨fuel, hfuel⟩ := hlong (decimal n ++ 44 :: 34 :: (keyBytes "updated" ++
    (Bytes.ofText (quote (Calendar.timestamp now)) ++ [125])))
  rw [encode_eq, hopen, hfuel, hread]
  rfl

end EdgeNode.Cursor
