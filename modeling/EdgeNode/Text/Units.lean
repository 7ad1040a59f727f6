import EdgeNode.Bytes
/-!
# Texts of sixteen-bit units

A character beyond the first 65536 is written as two units, a leading one from `0xD800` and a
trailing one from `0xDC00`, which stand for nothing by themselves.
-/

namespace EdgeNode.Text

/-- The units of some bytes, the more significant byte first.  An odd byte at the end is a unit. -/
def unitsBig : Bytes → List Nat
  | a :: b :: rest => (a.toNat * 256 + b.toNat) :: unitsBig rest
  | [a] => [a.toNat]
  | [] => []

/-- Whether a unit is the first of two. -/
def isLeading (n : Nat) : Bool :=
  0xD800 ≤ n && n < 0xDC00

/-- Whether a unit is the second of two. -/
def isTrailing (n : Nat) : Bool :=
  0xDC00 ≤ n && n < 0xE000

/-- The characters that units stand for, unless one of a pair stands alone. -/
def ofUnits? : List Nat → Option (List Char)
  | [] => some []
  | [a] => if isLeading a || isTrailing a then none else some [Char.ofNat a]
  | a :: b :: rest =>
    if isLeading a && isTrailing b then
      (ofUnits? rest).map (Char.ofNat ((a - 0xD800) * 0x400 + (b - 0xDC00) + 0x10000) :: ·)
    else if isLeading a || isTrailing a then none
    else (ofUnits? (b :: rest)).map (Char.ofNat a :: ·)

example : ofUnits? [0x48, 0xD83D, 0xDE00, 0x49] = some ['H', '😀', 'I'] := by decide +kernel

example : ofUnits? [0x48, 0xDE00] = none := by decide +kernel

end EdgeNode.Text
