import EdgeNode.Bytes
/-!
# Base32 without padding

Symbols of five bits, the letters `A` to `Z` and the digits `2` to `7`.  Bits of the last symbol
that belong to no byte must be zero.
-/

namespace EdgeNode.Encoding.Base32

-- powers are those of the core library, whatever else is imported
attribute [local instance (high)] instPowNat

/-- Why symbols do not spell bytes. -/
inductive Error where
  /-- The byte at this position is no symbol. -/
  | invalidSymbol (position : Nat)
  /-- The last symbol has bits that belong to no byte. -/
  | trailingBits (position : Nat)
deriving DecidableEq, Repr

/-- The symbol for a number below 32. -/
def symbol (n : Nat) : Char :=
  if n < 26 then Char.ofNat (65 + n) else Char.ofNat (24 + n)

/-- The number a symbol stands for. -/
def value? (b : UInt8) : Option Nat :=
  let n := b.toNat
  if 65 ≤ n && n ≤ 90 then some (n - 65)
  else if 50 ≤ n && n ≤ 55 then some (n - 24)
  else none

/-- The symbols of some bytes. -/
def encode (b : Bytes) : String :=
  let bits := b.length * 8
  let count := (bits + 4) / 5
  let n := b.toNatBig * 2 ^ (count * 5 - bits)
  String.ofList ((List.range count).map fun i => symbol (n / 32 ^ (count - 1 - i) % 32))

/-- The number that symbols spell, from a position on. -/
def digits (position acc : Nat) : Bytes → Except Error Nat
  | [] => .ok acc
  | b :: rest =>
    match value? b with
    | none => .error (.invalidSymbol position)
    | some v => digits (position + 1) (acc * 32 + v) rest

/-- The bytes that symbols spell. -/
def decode (b : Bytes) : Except Error Bytes :=
  match digits 0 0 b with
  | .error e => .error e
  | .ok n =>
    let spare := b.length * 5 % 8
    if n % 2 ^ spare ≠ 0 then .error (.trailingBits (b.length - 1))
    else .ok (Bytes.ofNatBig (b.length * 5 / 8) (n / 2 ^ spare))

end EdgeNode.Encoding.Base32
