/-!
# Shortest decimal digits of a binary floating point number

A finite positive number is `m * 2 ^ q`.  Every real in a certain interval around it rounds to it
(the ends belong to the interval when `m` is even).  `shortest` finds the decimal with the fewest
digits in that interval, and among those of equal length the nearest one.
-/

namespace EdgeNode.Decimal

-- powers are those of the core library, whatever else is imported
attribute [local instance (high)] instPowNat

/-- A finite number `m * 2 ^ q`, with `narrow` when the gap to the number below is half as wide as
the gap to the number above. -/
structure Binary where
  /-- The significand. -/
  m : Nat
  /-- The exponent of two. -/
  q : Int
  /-- Whether the number is the least of its binade. -/
  narrow : Bool
deriving Repr

/-- A decimal `digits * 10 ^ exponent`. -/
structure Digits where
  /-- The digits as one number. -/
  digits : Nat
  /-- The exponent of ten. -/
  exponent : Int
deriving DecidableEq, Repr

/-- The parts of a finite float without its sign. -/
def Binary.ofBits (bits : UInt64) : Binary :=
  let exponent : Nat := (bits.toNat / 2 ^ (52 : Nat)) % 2048
  let fraction := bits.toNat % 2 ^ (52 : Nat)
  if exponent == 0 then { m := fraction, q := -1074, narrow := false }
  else
    { m := fraction + 2 ^ (52 : Nat)
      q := (exponent : Int) - 1075
      narrow := fraction == 0 && exponent > 1 }

/-- A nonnegative fraction. -/
structure Ratio where
  /-- The numerator. -/
  num : Nat
  /-- The denominator. -/
  den : Nat

/-- The fraction `n * 2 ^ e`. -/
def Ratio.scale (n : Nat) (e : Int) : Ratio :=
  if e ≥ 0 then { num := n * 2 ^ e.toNat, den := 1 } else { num := n, den := 2 ^ (-e).toNat }

/-- The fraction times `10 ^ e`. -/
def Ratio.mulPowTen (r : Ratio) (e : Int) : Ratio :=
  if e ≥ 0 then { r with num := r.num * 10 ^ e.toNat }
  else { r with den := r.den * 10 ^ (-e).toNat }

/-- The number of decimal digits. -/
def width (n : Nat) : Nat :=
  (Nat.toDigits 10 n).length

/-- The least `k` with the value below `10 ^ k`; `steps` bounds how far below one it is sought. -/
def magnitude (r : Ratio) : Int :=
  let whole := r.num / r.den
  if whole > 0 then width whole else below 400 0 r.num
where
  /-- Multiplies by ten until one is reached. -/
  below : Nat → Int → Nat → Int
    | 0, k, _ => k
    | steps + 1, k, n => if n * 10 ≥ r.den then k else below steps (k - 1) (n * 10)

/-- The digits without zeros at their end. -/
def strip (d : Digits) : Digits :=
  go 20 d
where
  /-- Takes one zero at a time. -/
  go : Nat → Digits → Digits
    | 0, d => d
    | steps + 1, d =>
      if d.digits ≠ 0 ∧ d.digits % 10 = 0 then go steps ⟨d.digits / 10, d.exponent + 1⟩ else d

/-- The shortest digits that read back as the number. -/
def shortest (b : Binary) : Digits :=
  let at4 (n : Nat) := Ratio.scale n (b.q - 2)
  let value := at4 (4 * b.m)
  let low := at4 (if b.narrow then 4 * b.m - 1 else 4 * b.m - 2)
  let high := at4 (4 * b.m + 2)
  let k := magnitude value
  strip (search value low high k 17 1)
where
  /-- Whether `d` on the grid of spacing `10 ^ e` lies in the interval. -/
  inside (low high : Ratio) (e : Int) (d : Nat) : Bool :=
    let l := low.mulPowTen (-e)
    let h := high.mulPowTen (-e)
    if b.m % 2 = 0 then l.num ≤ d * l.den && d * h.den ≤ h.num
    else l.num < d * l.den && d * h.den < h.num
  /-- Tries grids of more and more digits. -/
  search (value low high : Ratio) (k : Int) : Nat → Nat → Digits
    | 0, n => grid value k n
    | steps + 1, n =>
      let e := k - n
      let v := value.mulPowTen (-e)
      let floor := v.num / v.den
      let lower := inside low high e floor
      let upper := inside low high e (floor + 1)
      let twice := 2 * (v.num - floor * v.den)
      if lower && upper then
        if twice < v.den || (twice == v.den && floor % 2 == 0) then ⟨floor, e⟩ else ⟨floor + 1, e⟩
      else if lower then ⟨floor, e⟩
      else if upper then ⟨floor + 1, e⟩
      else search value low high k steps (n + 1)
  /-- The value cut off at `n` digits. -/
  grid (value : Ratio) (k : Int) (n : Nat) : Digits :=
    let v := value.mulPowTen (n - k)
    ⟨v.num / v.den, k - n⟩

end EdgeNode.Decimal
