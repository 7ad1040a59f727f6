import EdgeNode.Decimal.Shortest
/-!
# The float nearest to a decimal

A fraction is rounded to the float nearest to it, of two the even one.  Consecutive floats have
consecutive bit patterns, so the pattern is found by rounding once and counting on from the first
float of the binade; beyond the greatest float stands infinity.

The text of a decimal is a sign, digits with a point among them and an exponent, all but the digits
optional; `inf`, `infinity` and `nan` are decimals in letters of either case.
-/

namespace EdgeNode.Decimal

-- powers are those of the core library, whatever else is imported
attribute [local instance (high)] instPowNat

/-- The nearest whole number to a fraction, the even one of two. -/
def roundHalfEven (num den : Nat) : Nat :=
  let floor := num / den
  let twice := 2 * (num % den)
  if twice > den ∨ (twice = den ∧ floor % 2 = 1) then floor + 1 else floor

/-- The bit pattern of positive infinity. -/
def infinityBits : Nat := 0x7FF0000000000000

/-- The greatest `e` with `2 ^ e` not above a positive fraction. -/
def binade (r : Ratio) : Int :=
  let e : Int := (r.num.log2 : Int) - r.den.log2
  let unit := Ratio.scale 1 e
  if unit.num * r.den ≤ r.num * unit.den then e else e - 1

/-- The bit pattern of the float nearest to a fraction. -/
def nearestBits (r : Ratio) : Nat :=
  if r.num = 0 then 0
  else
    let q := max (binade r - 52) (-1074)
    let unit := Ratio.scale 1 q
    min infinityBits
      ((q + 1074).toNat * 2 ^ (52 : Nat) + roundHalfEven (r.num * unit.den) (r.den * unit.num))

/-- The bit pattern of the float nearest to `digits * 10 ^ exponent`.  Far outside the range of
floats the power is not worked out. -/
def Digits.nearestBits (d : Digits) : Nat :=
  if d.digits = 0 ∨ d.exponent + width d.digits < -400 then 0
  else if d.exponent > 400 then infinityBits
  else Decimal.nearestBits ((Ratio.mk d.digits 1).mulPowTen d.exponent)

example : Digits.nearestBits ⟨1, -1⟩ = 0x3FB999999999999A := by decide +kernel

example : Digits.nearestBits ⟨49, -325⟩ = 1 := by decide +kernel

/-! ### Reading -/

/-- The number that digits spell. -/
def ofDigits (cs : List Char) : Nat :=
  cs.foldl (fun n c => n * 10 + (c.toNat - 48)) 0

/-- Takes a sign off: whether it is negative, and what follows. -/
def takeSign : List Char → Bool × List Char
  | '-' :: rest => (true, rest)
  | '+' :: rest => (false, rest)
  | cs => (false, cs)

/-- Reads what stands behind the digits: nothing or an exponent. -/
def readExponent? : List Char → Option Int
  | [] => some 0
  | c :: rest =>
    if c == 'e' || c == 'E' then
      match takeSign rest with
      | (negative, ds) =>
        if ds.isEmpty || !ds.all Char.isDigit then none
        else some (if negative then -(ofDigits ds : Int) else ofDigits ds)
    else none

/-- Reads digits with a point among them and an exponent. -/
def Digits.read? (cs : List Char) : Option Digits :=
  let whole := cs.takeWhile Char.isDigit
  let rest := cs.dropWhile Char.isDigit
  let (fraction, rest) :=
    match rest with
    | '.' :: rest => (rest.takeWhile Char.isDigit, rest.dropWhile Char.isDigit)
    | rest => ([], rest)
  if whole.isEmpty && fraction.isEmpty then none
  else (readExponent? rest).map fun e => ⟨ofDigits (whole ++ fraction), e - fraction.length⟩

/-- The bit pattern that a text without a sign stands for. -/
def readBits? (cs : List Char) : Option Nat :=
  let word := String.ofList (cs.map Char.toLower)
  if word = "inf" ∨ word = "infinity" then some infinityBits
  else if word = "nan" then some 0x7FF8000000000000
  else (Digits.read? cs).map Digits.nearestBits

/-- The float that a text stands for. -/
def readFloat? (s : String) : Option Float :=
  match takeSign s.toList with
  | (negative, cs) =>
    (readBits? cs).map fun bits =>
      Float.ofBits (UInt64.ofNat (if negative then 2 ^ (63 : Nat) + bits else bits))

end EdgeNode.Decimal
