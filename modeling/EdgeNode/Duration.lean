import EdgeNode.Decimal.Nearest
/-!
# Durations

A duration is a whole number of nanoseconds.  It converts to and from seconds as a float; a float
that is negative, not a number or at least `2 ^ 64` seconds is no duration.
-/

namespace EdgeNode

/-- A span of time. -/
structure Duration where
  /-- Its length in nanoseconds. -/
  nanos : Nat
deriving DecidableEq, Repr, Inhabited

namespace Duration

-- powers are those of the core library, whatever else is imported
attribute [local instance (high)] instPowNat

/-- Nanoseconds in a second. -/
def perSecond : Nat := 1000000000

/-- A duration of whole seconds. -/
def ofSecs (n : Nat) : Duration := ⟨n * perSecond⟩

/-- A duration of whole milliseconds. -/
def ofMillis (n : Nat) : Duration := ⟨n * 1000000⟩

/-- No time. -/
def zero : Duration := ⟨0⟩

/-- One duration after another. -/
def add (a b : Duration) : Duration := ⟨a.nanos + b.nanos⟩

/-- The whole seconds. -/
def secs (d : Duration) : Nat := d.nanos / perSecond

/-- The nanoseconds beyond the whole seconds. -/
def subsecNanos (d : Duration) : Nat := d.nanos % perSecond

/-- The whole milliseconds. -/
def millis (d : Duration) : Nat := d.nanos / 1000000

/-- The least whole milliseconds that are no shorter. -/
def ceilMillis (d : Duration) : Nat := (d.nanos + 999999) / 1000000

/-- The longest pause, in milliseconds: thirty years. -/
def longestPause : Nat := 30 * 365 * 86400 * 1000

/-- The milliseconds that a pause of this duration takes.  It does not end early, but no pause is
longer than the longest. -/
def pauseMillis (d : Duration) : Nat := min d.ceilMillis longestPause

/-- The duration in seconds, as a float. -/
def toFloat (d : Duration) : Float :=
  Float.ofNat d.secs + Float.ofNat d.subsecNanos / 1e9

/-- The duration nearest to a number of seconds. -/
def ofFloat? (x : Float) : Option Duration :=
  let bits := x.toBits
  let magnitude := bits.toNat % 2 ^ (63 : Nat)
  if magnitude = 0 then some zero
  else if bits.toNat ≥ 2 ^ (63 : Nat) ∨ magnitude ≥ 0x7FF0000000000000 then none
  else
    let b := Decimal.Binary.ofBits bits
    let r := Decimal.Ratio.scale (b.m * perSecond) b.q
    let nanos := Decimal.roundHalfEven r.num r.den
    if nanos ≥ 2 ^ (64 : Nat) * perSecond then none else some ⟨nanos⟩

end Duration

end EdgeNode
