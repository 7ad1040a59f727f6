import EdgeNode.Bytes
/-!
# Tagged elements

An element is a tag, a length and that many bytes of content; the content of a composed element is
again a row of elements.  A tag is a number within a class; those named here belong to the class of
universal tags.
-/

namespace EdgeNode.Encoding.Der

-- powers are those of the core library, whatever else is imported
attribute [local instance (high)] instPowNat

/-! ### Tags -/

/-- The number of truth values. -/
def tagBoolean : Nat := 1
/-- The number of whole numbers. -/
def tagInteger : Nat := 2
/-- The number of bit strings. -/
def tagBits : Nat := 3
/-- The number of byte strings. -/
def tagOctets : Nat := 4
/-- The number of object identifiers. -/
def tagObject : Nat := 6
/-- The number of choices from an enumeration. -/
def tagEnumerated : Nat := 10
/-- The number of texts of any characters. -/
def tagUtf8 : Nat := 12
/-- The number of sequences. -/
def tagSequence : Nat := 16
/-- The number of sets. -/
def tagSet : Nat := 17
/-- The number of texts of digits. -/
def tagNumeric : Nat := 18
/-- The number of texts of plain letters. -/
def tagPrintable : Nat := 19
/-- The number of texts of ASCII characters. -/
def tagAscii : Nat := 22
/-- The number of times with a year of two digits. -/
def tagShortTime : Nat := 23
/-- The number of times with a year of four digits. -/
def tagLongTime : Nat := 24
/-- The number of texts of sixteen-bit units. -/
def tagWide : Nat := 30

/-- What the first byte of a composed element holds beside its number. -/
def composed : Nat := 32

/-! ### Object identifiers -/

/-- The arcs behind the first two: numbers of seven bits a byte, the high bit set on all bytes of a
number but the last.  A number that breaks off counts. -/
def arcs (acc : Nat) : Bytes → List Nat
  | [] => []
  | [b] => [acc * 128 + b.toNat % 128]
  | b :: rest =>
    let n := acc * 128 + b.toNat % 128
    if b.toNat < 128 then n :: arcs 0 rest else arcs n rest

/-- The text of an object identifier: the first byte holds two arcs.  A single zero holds one. -/
def objectText : Bytes → String
  | [] => ""
  | [0] => "0"
  | b :: rest => ".".intercalate ((b.toNat / 40 :: b.toNat % 40 :: arcs 0 rest).map toString)

example : objectText [42, 134, 72, 134, 247, 13, 1, 9, 1] = "1.2.840.113549.1.9.1" := by
  decide +kernel

/-! ### Writing -/

/-- The bytes of a length. -/
def length (n : Nat) : Bytes :=
  if n < 128 then [UInt8.ofNat n]
  else
    let digits := (Nat.toDigits 256 n).length
    UInt8.ofNat (128 + digits) :: Bytes.ofNatBig digits n

/-- An element, from its first byte and its content. -/
def element (first : Nat) (content : Bytes) : Bytes :=
  UInt8.ofNat first :: (length content.length ++ content)

/-- A sequence. -/
def sequence (parts : List Bytes) : Bytes :=
  element (composed + tagSequence) parts.flatten

/-- A set. -/
def set (parts : List Bytes) : Bytes :=
  element (composed + tagSet) parts.flatten

/-- A whole number that is not negative. -/
def integer (n : Nat) : Bytes :=
  let digits := (Nat.toDigits 256 n).length
  let bytes := Bytes.ofNatBig digits n
  element tagInteger (match bytes with
    | b :: _ => if b.toNat ≥ 128 then 0 :: bytes else bytes
    | [] => [0])

/-- The bytes of an arc. -/
def arcBytes (n : Nat) : Bytes :=
  let digits := Nat.toDigits 128 n |>.length
  (List.range digits).map fun i =>
    let d := n / 128 ^ (digits - 1 - i) % 128
    UInt8.ofNat (if i + 1 = digits then d else d + 128)

/-- The content of an object identifier with the given arcs. -/
def objectBytes : List Nat → Bytes
  | a :: b :: rest => arcBytes (a * 40 + b) ++ rest.flatMap arcBytes
  | _ => []

/-- An object identifier from its arcs. -/
def object (arcs : List Nat) : Bytes :=
  element tagObject (objectBytes arcs)

/-- A string of whole bytes. -/
def bits (b : Bytes) : Bytes :=
  element tagBits (0 :: b)

/-- A byte string. -/
def octets (b : Bytes) : Bytes :=
  element tagOctets b

/-- A text of any characters. -/
def utf8 (s : String) : Bytes :=
  element tagUtf8 (Bytes.ofText s)

/-- A text of plain letters. -/
def printable (s : String) : Bytes :=
  element tagPrintable (Bytes.ofText s)

end EdgeNode.Encoding.Der
