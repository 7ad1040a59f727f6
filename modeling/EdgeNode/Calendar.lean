import EdgeNode.Text.Blank
/-!
# Dates and times

An instant is a number of nanoseconds since the start of 1970.  Instants are written as
`2024-05-01T12:30:00.25Z`; reading accepts any offset from universal time.
-/

namespace EdgeNode.Calendar

/-- A date and time of day. -/
structure DateTime where
  /-- The year. -/
  year : Int
  /-- The month, from one. -/
  month : Nat
  /-- The day of the month, from one. -/
  day : Nat
  /-- The hour. -/
  hour : Nat
  /-- The minute. -/
  minute : Nat
  /-- The second. -/
  second : Nat
deriving DecidableEq, Repr

/-- The days from the start of 1970 to a date. -/
def daysFromCivil (year : Int) (month day : Nat) : Int :=
  let y : Int := if month ≤ 2 then year - 1 else year
  let era := Int.fdiv y 400
  let yearOfEra := (y - era * 400).toNat
  let shifted := (month + 9) % 12
  let dayOfYear := (153 * shifted + 2) / 5 + day - 1
  let dayOfEra := yearOfEra * 365 + yearOfEra / 4 - yearOfEra / 100 + dayOfYear
  era * 146097 + dayOfEra - 719468

/-- The date a number of days after the start of 1970. -/
def civilFromDays (days : Int) : Int × Nat × Nat :=
  let z := days + 719468
  let era := Int.fdiv z 146097
  let dayOfEra := (z - era * 146097).toNat
  let yearOfEra := (dayOfEra - dayOfEra / 1460 + dayOfEra / 36524 - dayOfEra / 146096) / 365
  let dayOfYear := dayOfEra - (365 * yearOfEra + yearOfEra / 4 - yearOfEra / 100)
  let shifted := (5 * dayOfYear + 2) / 153
  let day := dayOfYear - (153 * shifted + 2) / 5 + 1
  let month := if shifted < 10 then shifted + 3 else shifted - 9
  let year : Int := yearOfEra + era * 400
  (if month ≤ 2 then year + 1 else year, month, day)

/-- Whether a year has a leap day. -/
def isLeap (year : Int) : Bool :=
  Int.fmod year 4 == 0 && (Int.fmod year 100 != 0 || Int.fmod year 400 == 0)

/-- The days of a month. -/
def daysIn (year : Int) (month : Nat) : Nat :=
  if month = 2 then (if isLeap year then 29 else 28)
  else if month = 4 ∨ month = 6 ∨ month = 9 ∨ month = 11 then 30
  else 31

/-- The seconds from the start of 1970. -/
def DateTime.seconds (t : DateTime) : Int :=
  daysFromCivil t.year t.month t.day * 86400 + (t.hour * 3600 + t.minute * 60 + t.second : Nat)

/-- The date and time a number of seconds after the start of 1970. -/
def DateTime.ofSeconds (seconds : Int) : DateTime :=
  let days := Int.fdiv seconds 86400
  let rest := (seconds - days * 86400).toNat
  let (year, month, day) := civilFromDays days
  { year, month, day, hour := rest / 3600, minute := rest / 60 % 60, second := rest % 60 }

/-- A number with at least `len` digits. -/
def padded (len n : Nat) : String :=
  let ds := Nat.toDigits 10 n
  String.ofList (List.replicate (len - ds.length) '0' ++ ds)

/-- The fraction of a second in as many groups of three digits as it needs. -/
def fraction (nanos : Nat) : String :=
  if nanos = 0 then ""
  else if nanos % 1000000 = 0 then "." ++ padded 3 (nanos / 1000000)
  else if nanos % 1000 = 0 then "." ++ padded 6 (nanos / 1000)
  else "." ++ padded 9 nanos

/-- The text of a year: four digits, or a sign and more of them. -/
def yearText (year : Nat) : String :=
  if year ≤ 9999 then padded 4 year else "+" ++ padded 4 year

/-- The text of an instant in universal time. -/
def timestamp (nanos : Nat) : String :=
  let t := DateTime.ofSeconds (nanos / 1000000000)
  yearText t.year.toNat ++ "-" ++ padded 2 t.month ++ "-" ++ padded 2 t.day ++ "T"
    ++ padded 2 t.hour ++ ":" ++ padded 2 t.minute ++ ":" ++ padded 2 t.second
    ++ fraction (nanos % 1000000000) ++ "Z"

example : timestamp 951782400250000000 = "2000-02-29T00:00:00.250Z" := by decide +kernel

/-! ### Reading -/

/-- Takes at most `most` digits, at least one. -/
def takeNumber (most : Nat) (cs : List Char) : Option (Nat × List Char) :=
  let ds := (cs.takeWhile Char.isDigit).take most
  if ds.isEmpty then none
  else some (ds.foldl (fun n c => n * 10 + (c.toNat - 48)) 0, cs.drop ds.length)

/-- Takes a character. -/
def takeChar (c : Char) : List Char → Option (List Char)
  | d :: rest => if c = d then some rest else none
  | [] => none

/-- Takes two digits behind blanks. -/
def takeField (cs : List Char) : Option (Nat × List Char) :=
  takeNumber 2 (Text.trimLeft cs)

/-- Takes a year: four digits, or any number behind a sign. -/
def takeYear (cs : List Char) : Option (Int × List Char) :=
  match Text.trimLeft cs with
  | '-' :: rest => (takeNumber rest.length rest).map fun (n, r) => (-(n : Int), r)
  | '+' :: rest => (takeNumber rest.length rest).map fun (n, r) => ((n : Int), r)
  | cs => (takeNumber 4 cs).map fun (n, r) => ((n : Int), r)

/-- Takes the offset from universal time, in seconds. -/
def takeOffset (cs : List Char) : Option (Int × List Char) :=
  match cs with
  | 'z' :: rest => some (0, rest)
  | 'Z' :: rest => some (0, rest)
  | sign :: a :: b :: rest =>
    if lowersToUtc [sign, a, b] then some (0, rest)
    else if (sign == '+' || sign == '-' || sign == '\u2212') && a.isDigit && b.isDigit then
      let hours := (a.toNat - 48) * 10 + (b.toNat - 48)
      match rest.dropWhile fun c => c == ':' || Text.isBlank c with
      | c :: d :: rest =>
        if c.isDigit && d.isDigit && c.toNat < 54 then
          let secs : Int := hours * 3600 + ((c.toNat - 48) * 10 + (d.toNat - 48)) * 60
          some (if sign == '+' then secs else -secs, rest)
        else none
      | _ => none
    else none
  | _ => none
where
  /-- Whether three letters name universal time. -/
  lowersToUtc (cs : List Char) : Bool :=
    cs.map Char.toLower == ['u', 't', 'c']

/-- The first day that has a date: the first of January of the year -262143. -/
def firstDay : Int := daysFromCivil (-262143) 1 1

/-- The last day that has a date: the last of December of the year 262142. -/
def lastDay : Int := daysFromCivil 262142 12 31

/-- Whether a day has a date. -/
def hasDate (day : Int) : Bool :=
  firstDay ≤ day && day ≤ lastDay

/-- Whether a text is a date, a time and an offset; blanks may follow.  The day has a date where
the time is read as well as in universal time. -/
def isTimestamp (s : String) : Bool :=
  (read s.toList).isSome
where
  /-- Reads the parts in order.  A leap second is a second 60; it belongs to the minute before. -/
  read (cs : List Char) : Option Unit := do
    let (year, cs) ← takeYear cs
    let cs ← takeChar '-' (Text.trimLeft cs)
    let (month, cs) ← takeField cs
    let cs ← takeChar '-' (Text.trimLeft cs)
    let (day, cs) ← takeField cs
    let cs ← match cs with
      | c :: rest => if c == 't' || c == 'T' || c == ' ' then some rest else none
      | [] => none
    let (hour, cs) ← takeField cs
    let cs ← takeChar ':' (Text.trimLeft cs)
    let (minute, cs) ← takeField cs
    let cs ← takeChar ':' (Text.trimLeft cs)
    let (second, cs) ← takeField cs
    let cs ← match cs with
      | '.' :: rest => (takeNumber rest.length rest).map Prod.snd
      | cs => some cs
    let (offset, cs) ← takeOffset (Text.trimLeft cs)
    let shown : DateTime := { year, month, day, hour, minute, second := min second 59 }
    if cs.all Text.isBlank ∧ 1 ≤ month ∧ month ≤ 12 ∧ 1 ≤ day ∧ day ≤ daysIn year month
        ∧ hour < 24 ∧ minute < 60 ∧ second ≤ 60 ∧ offset.natAbs < 86400
        ∧ hasDate (daysFromCivil year month day)
        ∧ hasDate (Int.fdiv (shown.seconds - offset) 86400)
    then some () else none

end EdgeNode.Calendar
