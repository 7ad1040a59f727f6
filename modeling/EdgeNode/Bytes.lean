/-!
# Bytes

File contents, message bodies and encoded keys are lists of bytes; a list that is valid UTF-8 has
a text.
-/

namespace EdgeNode

/-- A sequence of bytes. -/
abbrev Bytes := List UInt8

namespace Bytes

/-- The UTF-8 encoding of a text. -/
def ofText (s : String) : Bytes :=
  s.toUTF8.data.toList

/-- The text whose UTF-8 encoding the bytes are, if there is one. -/
def text? (b : Bytes) : Option String :=
  String.fromUTF8? ⟨b.toArray⟩

@[simp] theorem text?_ofText (s : String) : text? (ofText s) = some s := by
  simp only [text?, ofText, Array.toArray_toList, String.fromUTF8?, String.toUTF8_eq_toByteArray,
    dif_pos s.isValidUTF8]
  rfl

theorem ofText_of_text? {b : Bytes} {s : String} (h : text? b = some s) : ofText s = b := by
  unfold text? String.fromUTF8? at h
  split at h
  · next hv =>
    rw [Option.some.injEq] at h
    subst h
    rfl
  · contradiction

/-- The number the bytes spell with the most significant byte first. -/
def toNatBig (b : Bytes) : Nat :=
  b.foldl (fun n x => n * 256 + x.toNat) 0

/-- The number the bytes spell with the least significant byte first. -/
def toNatLittle (b : Bytes) : Nat :=
  b.foldr (fun x n => n * 256 + x.toNat) 0

/-- The `len` low bytes of a number, least significant first. -/
def ofNatLittle : Nat → Nat → Bytes
  | 0, _ => []
  | len + 1, n => UInt8.ofNat (n % 256) :: ofNatLittle len (n / 256)

/-- The `len` low bytes of a number, most significant first. -/
def ofNatBig (len n : Nat) : Bytes :=
  (ofNatLittle len n).reverse

@[simp] theorem length_ofNatLittle (len n : Nat) : (ofNatLittle len n).length = len := by
  induction len generalizing n with
  | zero => rfl
  | succ len ih => simp [ofNatLittle, ih]

@[simp] theorem length_ofNatBig (len n : Nat) : (ofNatBig len n).length = len := by
  simp [ofNatBig]

end Bytes

end EdgeNode
