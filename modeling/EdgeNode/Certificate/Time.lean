import EdgeNode.Calendar
import EdgeNode.Encoding.Der.Reader
/-!
# Times in certificates

A time is written in digits: year, month, day, hour, minute and, if they are there, seconds.  A
short time has a year of two digits, from 1950 to 2049, and any offset from universal time.  A long
time has a year of four digits, may have thousandths of a second, which do not count, and ends in
`Z`.
-/

namespace EdgeNode.CertificateTime

open Encoding

/-- The number that two digits spell. -/
def pair? (a b : UInt8) : Option Nat :=
  if 48 ≤ a ∧ a ≤ 57 ∧ 48 ≤ b ∧ b ≤ 57 then some ((a.toNat - 48) * 10 + (b.toNat - 48)) else none

/-- Takes a number of two digits off. -/
def takePair : Bytes → Option (Nat × Bytes)
  | a :: b :: rest => (pair? a b).map (·, rest)
  | _ => none

/-- Takes month, day, hour and minute off, behind a year; the second is zero. -/
def takeFields (year : Nat) (b : Bytes) : Option (Calendar.DateTime × Bytes) := do
  let (month, b) ← takePair b
  let (day, b) ← takePair b
  let (hour, b) ← takePair b
  let (minute, b) ← takePair b
  return ({ year, month, day, hour, minute, second := 0 }, b)

/-- Whether there is such a date and time of day. -/
def isPossible (t : Calendar.DateTime) : Bool :=
  1 ≤ t.month && t.month ≤ 12 && 1 ≤ t.day && t.day ≤ Calendar.daysIn t.year t.month
    && t.hour ≤ 23 && t.minute ≤ 59 && t.second ≤ 59

/-- The offset from universal time in seconds: `Z`, or a sign, hours and minutes.  It is negative
only if its hours are. -/
def offset? : Bytes → Option Int
  | [90] => some 0
  | [sign, a, b, c, d] => do
    let hours ← pair? a b
    let minutes ← pair? c d
    if hours > 25 ∨ minutes > 59 ∨ (sign ≠ 43 ∧ sign ≠ 45) then none
    else
      let secs : Int := hours * 3600 + minutes * 60
      return if sign = 45 ∧ hours ≠ 0 then -secs else secs
  | _ => none

/-- Whether a byte is a character that a short time may hold. -/
def isVisible (c : UInt8) : Bool :=
  32 ≤ c && c ≤ 127

/-- The instant of a short time, in seconds since 1970.  Two bytes behind the minutes stand for
the seconds; they count as none if they are no digits. -/
def readShort (b : Bytes) : Option Int := do
  let (year, b) ← if b.all isVisible then takePair b else none
  let (t, b) ← takeFields (if year ≥ 50 then 1900 + year else 2000 + year) b
  let (second, b) := match b with
    | s :: s' :: rest => ((pair? s s').getD 0, rest)
    | b => (0, b)
  let offset ← offset? b
  let t := { t with second }
  if isPossible t then return t.seconds - offset else none

/-- Whether some bytes may follow the seconds of a long time: `Z`, or a point, three digits at most
and `Z`. -/
def endsLong : Bytes → Bool
  | 46 :: rest =>
    let digits := rest.takeWhile fun c => 48 ≤ c && c ≤ 57
    digits.length ≤ 3 && rest.drop digits.length == [90]
  | rest => rest == [90]

/-- The instant of a long time, in seconds since 1970. -/
def readLong (b : Bytes) : Option Int := do
  let (century, b) ← takePair b
  let (year, b) ← takePair b
  let (t, b) ← takeFields (century * 100 + year) b
  let (second, b) ← if b.length < 2 then some (0, b) else takePair b
  let t := { t with second }
  if endsLong b ∧ isPossible t then return t.seconds else none

/-- Takes a time off: the instant in seconds since 1970. -/
def take (b : Bytes) : Option (Int × Bytes) :=
  match Der.take b with
  | none => none
  | some (e, rest) =>
    if e.number = Der.tagShortTime then (readShort e.content).map (·, rest)
    else if e.number = Der.tagLongTime then (readLong e.content).map (·, rest)
    else none

end EdgeNode.CertificateTime
