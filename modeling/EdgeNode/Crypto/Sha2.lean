import EdgeNode.Bytes
/-!
# The SHA-2 hash functions

The two functions differ in the size of a word, the number of rounds and the shifts.  Their
constants are the fractional parts of the square and cube roots of the first primes, and are
computed from them.  Random bytes are drawn from a seed: each draw hashes the seed with the number
of the draw.
-/

namespace EdgeNode

namespace Crypto

-- powers are those of the core library, whatever else is imported
attribute [local instance (high)] instPowNat

/-- The greatest number whose `k`-th power is at most `n`, below `2 ^ bits`. -/
def rootFloor (k n : Nat) : Nat → Nat
  | 0 => 0
  | bits + 1 => go bits 0
where
  /-- Decides the bits of the root from the highest down. -/
  go : Nat → Nat → Nat
    | 0, r => if (r + 1) ^ k ≤ n then r + 1 else r
    | bit + 1, r => let r' := r + 2 ^ (bit + 1); if r' ^ k ≤ n then go bit r' else go bit r

/-- The first `bits` bits behind the binary point of the `k`-th root of `n`. -/
def rootFraction (k bits n : Nat) : Nat :=
  rootFloor k (n * 2 ^ (k * bits)) (bits + 10) % 2 ^ bits

/-- Whether a number has no divisor but one and itself. -/
def isPrime (n : Nat) : Bool :=
  n ≥ 2 && (List.range n).all fun d => d < 2 || n % d != 0

/-- The first 80 primes. -/
def primes : List Nat :=
  (List.range 410).filter isPrime

/-- The word size, rounds and shifts of one of the functions. -/
structure Sha2 where
  /-- The bits of a word. -/
  word : Nat
  /-- The number of rounds. -/
  rounds : Nat
  /-- The rotations of the first value in a round. -/
  bigA : Nat × Nat × Nat
  /-- The rotations of the fifth value in a round. -/
  bigE : Nat × Nat × Nat
  /-- The rotations, and last the shift, of an early word of the schedule. -/
  smallA : Nat × Nat × Nat
  /-- The rotations, and last the shift, of a late word of the schedule. -/
  smallE : Nat × Nat × Nat

namespace Sha2

/-- The function with words of 32 bits. -/
def sha256 : Sha2 where
  word := 32
  rounds := 64
  bigA := (2, 13, 22)
  bigE := (6, 11, 25)
  smallA := (7, 18, 3)
  smallE := (17, 19, 10)

/-- The function with words of 64 bits. -/
def sha512 : Sha2 where
  word := 64
  rounds := 80
  bigA := (28, 34, 39)
  bigE := (14, 18, 41)
  smallA := (1, 8, 7)
  smallE := (19, 61, 6)

/-- The round constants. -/
def constants (h : Sha2) : Array Nat :=
  ((primes.take h.rounds).map (rootFraction 3 h.word)).toArray

/-- The initial values. -/
def initial (h : Sha2) : List Nat :=
  (primes.take 8).map (rootFraction 2 h.word)

/-- A word rotated to the right. -/
def rotate (h : Sha2) (n x : Nat) : Nat :=
  (x >>> n) ||| (x <<< (h.word - n)) % 2 ^ h.word

/-- The sum of three rotations of a word. -/
def mix (h : Sha2) (r : Nat × Nat × Nat) (x : Nat) : Nat :=
  h.rotate r.1 x ^^^ h.rotate r.2.1 x ^^^ h.rotate r.2.2 x

/-- The sum of two rotations and a shift of a word. -/
def spread (h : Sha2) (r : Nat × Nat × Nat) (x : Nat) : Nat :=
  h.rotate r.1 x ^^^ h.rotate r.2.1 x ^^^ (x >>> r.2.2)

/-- Sixteen words of a block, continued to one word a round. -/
def schedule (h : Sha2) (block : Array Nat) : Array Nat :=
  (List.range (h.rounds - 16)).foldl (fun w i =>
    let at' (j : Nat) := w.getD j 0
    w.push ((h.spread h.smallE (at' (i + 14)) + at' (i + 9) + h.spread h.smallA (at' (i + 1))
      + at' i) % 2 ^ h.word)) block

/-- One round on the eight values. -/
def round (h : Sha2) (k w : Nat) : List Nat → List Nat
  | [a, b, c, d, e, f, g, x] =>
    let m := 2 ^ h.word
    let choice := (e &&& f) ^^^ ((m - 1 - e) &&& g)
    let majority := (a &&& b) ^^^ (a &&& c) ^^^ (b &&& c)
    let t := x + h.mix h.bigE e + choice + k + w
    [(t + h.mix h.bigA a + majority) % m, a, b, c, (d + t) % m, e, f, g]
  | values => values

/-- Takes in one block. -/
def compress (h : Sha2) (constants : Array Nat) (values : List Nat) (block : Array Nat) :
    List Nat :=
  let w := h.schedule block
  let after := (List.range h.rounds).foldl
    (fun v i => h.round (constants.getD i 0) (w.getD i 0) v) values
  List.zipWith (fun a b => (a + b) % 2 ^ h.word) values after

/-- Cuts bytes into words. -/
def words (h : Sha2) : Nat → Bytes → List Nat
  | 0, _ => []
  | fuel + 1, b =>
    if b.isEmpty then []
    else Bytes.toNatBig (b.take (h.word / 8)) :: words h fuel (b.drop (h.word / 8))

/-- Cuts words into blocks of sixteen. -/
def blocks : Nat → List Nat → List (Array Nat)
  | 0, _ => []
  | fuel + 1, ws => if ws.isEmpty then [] else (ws.take 16).toArray :: blocks fuel (ws.drop 16)

/-- The bytes completed to whole blocks: a one bit, zeros, and the number of bits. -/
def pad (h : Sha2) (b : Bytes) : Bytes :=
  let block := 2 * h.word
  let tail := h.word / 4
  let zeros := (block - (b.length + 1 + tail) % block) % block
  b ++ 0x80 :: (List.replicate zeros 0 ++ Bytes.ofNatBig tail (b.length * 8))

/-- The hash of some bytes. -/
def hash (h : Sha2) (b : Bytes) : Bytes :=
  let constants := h.constants
  let ws := h.words (b.length + 200) (h.pad b)
  ((blocks ws.length ws).foldl (h.compress constants) h.initial).flatMap
    (Bytes.ofNatBig (h.word / 8))

end Sha2

/-- The hash of 32 bytes. -/
def sha256 (b : Bytes) : Bytes := Sha2.sha256.hash b

/-- The hash of 64 bytes. -/
def sha512 (b : Bytes) : Bytes := Sha2.sha512.hash b

end Crypto

/-! ### Random bytes -/

/-- A source of random bytes. -/
structure Entropy where
  /-- The seed. -/
  seed : Bytes := []
  /-- The number of draws so far. -/
  drawn : Nat := 0
deriving DecidableEq, Repr

/-- Draws 64 bytes. -/
def Entropy.draw (e : Entropy) : Bytes × Entropy :=
  (Crypto.sha512 (e.seed ++ Bytes.ofNatBig 8 e.drawn), { e with drawn := e.drawn + 1 })

end EdgeNode
