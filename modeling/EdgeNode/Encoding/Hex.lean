import EdgeNode.Bytes
/-!
# Hexadecimal text

Bytes are written as two lower-case digits each and read from digits of either case.
-/

namespace EdgeNode.Encoding.Hex

/-- Why a text is not hexadecimal. -/
inductive Error where
  /-- The number of bytes of the text is odd. -/
  | oddLength
  /-- The byte at this position is no digit. -/
  | invalidDigit (byte : UInt8) (position : Nat)
deriving DecidableEq, Repr

/-- The digit for a number below sixteen. -/
def digit (n : Nat) : Char :=
  if n < 10 then Char.ofNat (48 + n) else Char.ofNat (87 + n)

/-- The value of a digit of either case. -/
def value? (b : UInt8) : Option Nat :=
  let n := b.toNat
  if 48 ≤ n && n ≤ 57 then some (n - 48)
  else if 97 ≤ n && n ≤ 102 then some (n - 87)
  else if 65 ≤ n && n ≤ 70 then some (n - 55)
  else none

/-- Two digits for every byte. -/
def encodeChars : Bytes → List Char
  | [] => []
  | b :: bs => digit (b.toNat / 16) :: digit (b.toNat % 16) :: encodeChars bs

/-- Two digits for every byte. -/
def encode (b : Bytes) : String :=
  String.ofList (encodeChars b)

/-- The digits of a number without leading zeros. -/
def ofNat (n : Nat) : String :=
  String.ofList (Nat.toDigits 16 n)

/-- The bytes that pairs of digits spell; positions are counted from `i`. -/
def decodeFrom (i : Nat) : Bytes → Except Error Bytes
  | [] => .ok []
  | [_] => .error .oddLength
  | a :: b :: rest =>
    match value? a with
    | none => .error (.invalidDigit a i)
    | some hi =>
      match value? b with
      | none => .error (.invalidDigit b (i + 1))
      | some lo =>
        match decodeFrom (i + 2) rest with
        | .error e => .error e
        | .ok bytes => .ok (UInt8.ofNat (hi * 16 + lo) :: bytes)

/-- The bytes that a text spells.  An odd length is found before any digit is looked at. -/
def decode (s : String) : Except Error Bytes :=
  let b := Bytes.ofText s
  if b.length % 2 = 1 then .error .oddLength else decodeFrom 0 b

/-- A byte as a quoted Latin-1 character; what cannot be printed is written by its code. -/
def quoted (b : UInt8) : String :=
  let n := b.toNat
  let inner :=
    if n = 0 then "\\0"
    else if n = 9 then "\\t"
    else if n = 10 then "\\n"
    else if n = 13 then "\\r"
    else if n = 39 then "\\'"
    else if n = 92 then "\\\\"
    else if n < 32 || (127 ≤ n && n ≤ 160) || n = 173 then "\\u\x7b" ++ ofNat n ++ "\x7d"
    else (Char.ofNat n).toString
  "'" ++ inner ++ "'"

/-- The wording of an error. -/
def Error.message : Error → String
  | .oddLength => "Odd number of digits"
  | .invalidDigit b i => "Invalid character " ++ quoted b ++ " at position " ++ toString i

end EdgeNode.Encoding.Hex
