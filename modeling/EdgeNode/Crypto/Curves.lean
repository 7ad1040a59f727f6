import EdgeNode.Crypto.Sha2
/-!
# Elliptic curves

Two curves over prime fields, each as far as keys and signatures need it.

* Ed25519 is `-x² + y² = 1 + d x² y²` over the integers modulo `2 ^ 255 - 19`.  A seed is hashed; the
  first half of the hash, with some bits fixed, is multiplied by the base point.
* P-256 is `y² = x³ - 3 x + b` over a prime field of 256 bits.  Points are kept as `(X, Y, Z)` with
  `x = X / Z²` and `y = Y / Z³`; `Z = 0` is the point at infinity.
-/

namespace EdgeNode.Crypto

/-! ### Arithmetic modulo a number -/

/-- The power `b ^ e` modulo `m`, by squaring; `bits` bounds the bits of the exponent. -/
def powMod (m : Nat) : Nat → Nat → Nat → Nat
  | 0, _, _ => 1 % m
  | bits + 1, b, e =>
    let half := powMod m bits (b * b % m) (e / 2)
    if e % 2 = 1 then half * b % m else half

/-- The inverse of a number modulo a prime below `2 ^ 256`. -/
def inverseMod (p x : Nat) : Nat :=
  powMod p 256 x (p - 2)

/-! ### Ed25519 -/

namespace Ed25519

-- powers are those of the core library, whatever else is imported
attribute [local instance (high)] instPowNat

/-- The number of elements of the field. -/
def p : Nat := 2 ^ (255 : Nat) - 19

/-- The constant of the curve. -/
def d : Nat :=
  (p - 121665) * inverseMod p 121666 % p

/-- A point with `x = X / Z`, `y = Y / Z` and `T = X Y / Z`. -/
structure Point where
  /-- The first coordinate. -/
  x : Nat
  /-- The second coordinate. -/
  y : Nat
  /-- The common denominator. -/
  z : Nat
  /-- The product of the coordinates. -/
  t : Nat

/-- The neutral point. -/
def neutral : Point := ⟨0, 1, 1, 0⟩

/-- The base point. -/
def base : Point :=
  let x := 15112221349535400772501151409588531511454012693041857206046113283949847762202
  let y := 46316835694926478169428394003475163141307993866256225615783033603165251855960
  ⟨x, y, 1, x * y % p⟩

/-- The sum of two points; `twoD` is twice the constant of the curve. -/
def add (twoD : Nat) (a b : Point) : Point :=
  let u := (a.y + p - a.x) * (b.y + p - b.x) % p
  let v := (a.y + a.x) * (b.y + b.x) % p
  let c := a.t * twoD % p * b.t % p
  let w := 2 * a.z * b.z % p
  let e := v + p - u
  let f := w + p - c
  let g := w + c
  let h := v + u
  ⟨e * f % p, g * h % p, f * g % p, e * h % p⟩

/-- The multiple of a point by a number of at most `bits` bits. -/
def multiply (twoD : Nat) : Nat → Nat → Point → Point
  | 0, _, _ => neutral
  | bits + 1, n, a =>
    let rest := multiply twoD bits (n / 2) (add twoD a a)
    if n % 2 = 1 then add twoD rest a else rest

/-- The multiplier that a seed stands for. -/
def scalar (seed : Bytes) : Nat :=
  let n := Bytes.toNatLittle ((sha512 seed).take 32)
  n % 2 ^ (254 : Nat) / 8 * 8 + 2 ^ (254 : Nat)

/-- The public key of a seed of 32 bytes. -/
def publicKey (seed : Bytes) : Bytes :=
  let a := multiply (2 * d) 256 (scalar seed) base
  let inv := inverseMod p a.z
  let x := a.x * inv % p
  let y := a.y * inv % p
  Bytes.ofNatLittle 32 (y + x % 2 * 2 ^ (255 : Nat))

end Ed25519

/-! ### P-256 -/

namespace P256

-- powers are those of the core library, whatever else is imported
attribute [local instance (high)] instPowNat

/-- The number of elements of the field. -/
def p : Nat := 2 ^ (256 : Nat) - 2 ^ (224 : Nat) + 2 ^ (192 : Nat) + 2 ^ (96 : Nat) - 1

/-- The number of points. -/
def order : Nat := 0xFFFFFFFF00000000FFFFFFFFFFFFFFFFBCE6FAADA7179E84F3B9CAC2FC632551

/-- A point. -/
structure Point where
  /-- The first coordinate. -/
  x : Nat
  /-- The second coordinate. -/
  y : Nat
  /-- The denominator. -/
  z : Nat

/-- The base point. -/
def base : Point where
  x := 0x6B17D1F2E12C4247F8BCE6E563A440F277037D812DEB33A0F4A13945D898C296
  y := 0x4FE342E2FE1A7F9B8EE7EB4A7C0F9E162BCE33576B315ECECBB6406837BF51F5
  z := 1

/-- Twice a point. -/
def double (a : Point) : Point :=
  let delta := a.z * a.z % p
  let gamma := a.y * a.y % p
  let beta := a.x * gamma % p
  let alpha := 3 * (a.x + p - delta) * (a.x + delta) % p
  let x := (alpha * alpha + 8 * (p - beta)) % p
  let z := ((a.y + a.z) * (a.y + a.z) + (p - gamma) + (p - delta)) % p
  let y := (alpha * (4 * beta + p - x) + 8 * (p - gamma * gamma % p)) % p
  ⟨x, y, z⟩

/-- The sum of two points. -/
def add (a b : Point) : Point :=
  if a.z = 0 then b
  else if b.z = 0 then a
  else
    let z1 := a.z * a.z % p
    let z2 := b.z * b.z % p
    let u1 := a.x * z2 % p
    let u2 := b.x * z1 % p
    let s1 := a.y * b.z % p * z2 % p
    let s2 := b.y * a.z % p * z1 % p
    if u1 = u2 then (if s1 = s2 then double a else ⟨1, 1, 0⟩)
    else
      let h := (u2 + p - u1) % p
      let i := 4 * h * h % p
      let j := h * i % p
      let r := 2 * (s2 + p - s1) % p
      let v := u1 * i % p
      let x := (r * r + (p - j) + 2 * (p - v)) % p
      let y := (r * (v + p - x) + 2 * (p - s1 * j % p)) % p
      let z := ((a.z + b.z) * (a.z + b.z) + (p - z1) + (p - z2)) % p * h % p
      ⟨x, y, z⟩

/-- The multiple of a point by a number of at most `bits` bits. -/
def multiply : Nat → Nat → Point → Point
  | 0, _, _ => ⟨1, 1, 0⟩
  | bits + 1, n, a =>
    let rest := multiply bits (n / 2) (double a)
    if n % 2 = 1 then add rest a else rest

/-- The coordinates of a point. -/
def Point.affine (a : Point) : Nat × Nat :=
  let inv := inverseMod p a.z
  let inv2 := inv * inv % p
  (a.x * inv2 % p, a.y * inv2 % p * inv % p)

/-- A number between one and the order less one, made from bytes. -/
def scalarOf (b : Bytes) : Nat :=
  Bytes.toNatBig b % (order - 1) + 1

/-- The public key of a secret, uncompressed. -/
def publicKey (secret : Nat) : Bytes :=
  let (x, y) := (multiply 256 secret base).affine
  4 :: (Bytes.ofNatBig 32 x ++ Bytes.ofNatBig 32 y)

/-- The signature of a message under a secret with a fresh number. -/
def sign (secret fresh : Nat) (message : Bytes) : Nat × Nat :=
  let z := Bytes.toNatBig (sha256 message)
  let r := (multiply 256 fresh base).affine.1 % order
  let s := inverseMod order fresh * (z + r * secret) % order
  (r, s)

end P256

end EdgeNode.Crypto
