import EdgeNode.Bytes
/-!
# Base64

Three bytes are written as four symbols of six bits.  The last group may be shorter; bits it does
not need must be zero, and padding, where it is used, completes the group.
-/

namespace EdgeNode.Encoding.Base64

-- powers are those of the core library, whatever else is imported
attribute [local instance (high)] instPowNat

/-- Why symbols do not spell bytes. -/
inductive Error where
  /-- The byte at this offset is no symbol, or padding stands where none may. -/
  | invalidByte (offset : Nat) (byte : UInt8)
  /-- A last group of one symbol. -/
  | invalidLength (length : Nat)
  /-- The last symbol has bits that belong to no byte. -/
  | invalidLastSymbol (offset : Nat) (byte : UInt8)
  /-- Padding is missing, or present where none is used. -/
  | invalidPadding
deriving DecidableEq, Repr

/-- The wording of an error. -/
def Error.message : Error → String
  | .invalidByte i b => "Invalid symbol " ++ toString b.toNat ++ ", offset " ++ toString i ++ "."
  | .invalidLength n => "Invalid input length: " ++ toString n
  | .invalidLastSymbol i b =>
    "Invalid last symbol " ++ toString b.toNat ++ ", offset " ++ toString i ++ "."
  | .invalidPadding => "Invalid padding"

/-- The two symbols that differ between the alphabets, and whether groups are padded. -/
structure Alphabet where
  /-- The symbol for 62. -/
  plus : Char
  /-- The symbol for 63. -/
  slash : Char
  /-- Whether the last group is completed by padding. -/
  padded : Bool

/-- The alphabet of certificates. -/
def standard : Alphabet := ⟨'+', '/', true⟩

/-- The alphabet of web tokens. -/
def urlSafe : Alphabet := ⟨'-', '_', false⟩

/-- The padding byte. -/
def pad : UInt8 := 61

/-- The symbol for a number below 64. -/
def Alphabet.symbol (a : Alphabet) (n : Nat) : Char :=
  if n < 26 then Char.ofNat (65 + n)
  else if n < 52 then Char.ofNat (71 + n)
  else if n < 62 then Char.ofNat (n - 4)
  else if n = 62 then a.plus
  else a.slash

/-- The number a symbol stands for. -/
def Alphabet.value? (a : Alphabet) (b : UInt8) : Option Nat :=
  let n := b.toNat
  if 65 ≤ n && n ≤ 90 then some (n - 65)
  else if 97 ≤ n && n ≤ 122 then some (n - 71)
  else if 48 ≤ n && n ≤ 57 then some (n + 4)
  else if n = a.plus.toNat then some 62
  else if n = a.slash.toNat then some 63
  else none

/-- The symbols of some bytes. -/
def Alphabet.encodeChars (a : Alphabet) : Bytes → List Char
  | x :: y :: z :: rest =>
    let n := (x.toNat * 256 + y.toNat) * 256 + z.toNat
    a.symbol (n / 262144) :: a.symbol (n / 4096 % 64) :: a.symbol (n / 64 % 64)
      :: a.symbol (n % 64) :: a.encodeChars rest
  | [x, y] =>
    let n := (x.toNat * 256 + y.toNat) * 4
    [a.symbol (n / 4096), a.symbol (n / 64 % 64), a.symbol (n % 64)]
      ++ if a.padded then ['='] else []
  | [x] =>
    let n := x.toNat * 16
    [a.symbol (n / 64), a.symbol (n % 64)] ++ if a.padded then ['=', '='] else []
  | [] => []

/-- The bytes of complete groups of four symbols, from an offset on; stops before the last group
(`last` symbols). -/
def Alphabet.groups (a : Alphabet) (offset : Nat) :
    Nat → Bytes → Except Error (Bytes × Nat × Bytes)
  | 0, b => .ok ([], offset, b)
  | count + 1, b =>
    match b with
    | w :: x :: y :: z :: rest =>
      match a.value? w, a.value? x, a.value? y, a.value? z with
      | none, _, _, _ => .error (.invalidByte offset w)
      | _, none, _, _ => .error (.invalidByte (offset + 1) x)
      | _, _, none, _ => .error (.invalidByte (offset + 2) y)
      | _, _, _, none => .error (.invalidByte (offset + 3) z)
      | some w, some x, some y, some z =>
        let n := ((w * 64 + x) * 64 + y) * 64 + z
        match a.groups (offset + 4) count rest with
        | .error e => .error e
        | .ok (bytes, at', left) =>
          .ok (UInt8.ofNat (n / 65536) :: UInt8.ofNat (n / 256 % 256) :: UInt8.ofNat (n % 256)
            :: bytes, at', left)
    | b => .ok ([], offset, b)

/-- What the last group was found to hold. -/
structure Tail where
  /-- The values of its symbols, last first. -/
  values : List Nat := []
  /-- The number of padding bytes. -/
  pads : Nat := 0
  /-- Where the first padding byte stands in the group. -/
  firstPad : Nat := 0
  /-- The last symbol. -/
  last : UInt8 := 0

/-- Reads the last group byte by byte. -/
def Alphabet.tail (a : Alphabet) (offset : Nat) : Nat → Tail → Bytes → Except Error Tail
  | _, t, [] => .ok t
  | i, t, b :: rest =>
    if b = pad then
      if i < 2 then .error (.invalidByte (offset + i) b)
      else
        a.tail offset (i + 1)
          { t with pads := t.pads + 1, firstPad := if t.pads = 0 then i else t.firstPad } rest
    else if t.pads > 0 then .error (.invalidByte (offset + t.firstPad) pad)
    else
      match a.value? b with
      | none => .error (.invalidByte (offset + i) b)
      | some v => a.tail offset (i + 1) { t with values := v :: t.values, last := b } rest

/-- The bytes of the last group. -/
def Alphabet.finish (a : Alphabet) (offset : Nat) (t : Tail) : Except Error Bytes :=
  let count := t.values.length
  if count < 2 then .error (.invalidLength (offset + count))
  else if a.padded ∧ (t.pads + count) % 4 ≠ 0 then .error .invalidPadding
  else if !a.padded ∧ t.pads > 0 then .error .invalidPadding
  else
    let n := t.values.reverse.foldl (fun n v => n * 64 + v) 0
    let spare := count * 6 % 8
    if n % 2 ^ spare ≠ 0 then .error (.invalidLastSymbol (offset + count - 1) t.last)
    else .ok (Bytes.ofNatBig (count * 6 / 8) (n / 2 ^ spare))

/-- The bytes that symbols spell. -/
def Alphabet.decode (a : Alphabet) (b : Bytes) : Except Error Bytes :=
  if b.isEmpty then .ok []
  else
    let rem := b.length % 4
    match (if rem = 1 then b.getLast? else none) with
    | some c =>
      if c ≠ pad ∧ (a.value? c).isNone then .error (.invalidByte (b.length - 1) c) else go b rem
    | none => go b rem
where
  /-- Reads the groups before the last, then the last. -/
  go (b : Bytes) (rem : Nat) : Except Error Bytes :=
    match a.groups 0 (b.length / 4 - if rem = 0 then 1 else 0) b with
    | .error e => .error e
    | .ok (bytes, offset, left) =>
      match a.tail offset 0 {} left with
      | .error e => .error e
      | .ok t =>
        match a.finish offset t with
        | .error e => .error e
        | .ok last => .ok (bytes ++ last)

end EdgeNode.Encoding.Base64
