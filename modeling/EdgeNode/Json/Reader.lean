import EdgeNode.Bytes
import EdgeNode.Json.Value
/-!
# Reading JSON

A reader takes something off the front of some bytes.  It answers what it read, if that was well
formed, and in either case the bytes it left: a caller may go on behind a part that failed.

Values are read in two ways.  `written` builds the value, with at most 127 lists and objects inside
one another, numbers in the range of floats and texts of valid characters; `value` lists the members
of its objects by key.  `skip` only checks the form of a value: any depth and any exponent pass, and
escaped code units need not pair up.
-/

namespace EdgeNode.Json

-- powers are those of the core library, whatever else is imported
attribute [local instance (high)] instPowNat

/-- What a reader took off the front of some bytes, and the bytes it left. -/
structure Read (α : Type) where
  /-- What was read, if it was well formed. -/
  result : Option α
  /-- The bytes left over. -/
  rest : Bytes

namespace Read

variable {α β : Type}

/-- Reading goes on with what was read. -/
def bind (r : Read α) (f : α → Bytes → Read β) : Read β :=
  match r.result with
  | some a => f a r.rest
  | none => ⟨none, r.rest⟩

/-- What was read, replaced. -/
def map (r : Read α) (f : α → β) : Read β :=
  ⟨r.result.map f, r.rest⟩

/-- What was read up to a closing bracket, which is then taken.  It is also taken, if it is next,
where reading failed. -/
def closedBy (r : Read α) (close : Bytes → Read Unit) : Read α :=
  match close r.rest with
  | ⟨closed, rest⟩ => ⟨closed.bind fun _ => r.result, rest⟩

end Read

/-- Nothing was read. -/
def fail {α : Type} (rest : Bytes) : Read α := ⟨none, rest⟩

/-- Something was read. -/
def done {α : Type} (a : α) (rest : Bytes) : Read α := ⟨some a, rest⟩

/-- Whether a byte is a blank between tokens. -/
def isSpace (b : UInt8) : Bool :=
  b == 32 || b == 10 || b == 9 || b == 13

/-- Whether a byte is a decimal digit. -/
def isDigit (b : UInt8) : Bool :=
  48 ≤ b && b ≤ 57

/-- The bytes behind the blanks at the front. -/
def skipSpace (b : Bytes) : Bytes :=
  b.dropWhile isSpace

/-- The bytes behind the digits at the front. -/
def skipDigits (b : Bytes) : Bytes :=
  b.dropWhile isDigit

/-- Takes the given bytes one by one; the first that differs is taken too. -/
def literal : Bytes → Bytes → Read Unit
  | [], b => done () b
  | _ :: _, [] => fail []
  | w :: word, c :: rest => if w = c then literal word rest else fail rest

/-! ### Numbers -/

/-- A number that was read. -/
inductive Number where
  /-- A whole number that fits 64 bits. -/
  | int (n : Int)
  /-- A float. -/
  | float (x : Float)

/-- Ten to a power, rounded to a float. -/
def powTen (n : Nat) : Float :=
  Float.ofScientific 1 false n

/-- The float `significand * 10 ^ exponent`, scaled by powers of ten of at most 308 one after
another.  A result beyond every float is none. -/
def scaled (positive : Bool) (significand : Nat) (exponent : Int) : Option Float :=
  (go 8000000 (Float.ofNat significand) exponent).map fun x => if positive then x else -x
where
  /-- Divides by the greatest power until one power is enough. -/
  go : Nat → Float → Int → Option Float
    | 0, x, _ => some x
    | steps + 1, x, e =>
      if e.natAbs ≤ 308 then
        if e ≥ 0 then
          let y := x * powTen e.natAbs
          if y.isInf then none else some y
        else some (x / powTen e.natAbs)
      else if x == 0 then some x
      else if e ≥ 0 then none
      else go steps (x / powTen 308) (e + 308)

/-- The greatest value of an exponent that is counted exactly. -/
def maxExponent : Nat := 2147483647

/-- An exponent kept within 32 bits. -/
def clampExponent (e : Int) : Int :=
  max (-2147483648) (min 2147483647 e)

/-- The digits of an exponent; `none` once it exceeds 32 bits, with the digits behind left. -/
def exponentDigits (acc : Nat) : Bytes → Option Nat × Bytes
  | [] => (some acc, [])
  | c :: rest =>
    if isDigit c then
      let next := acc * 10 + (c.toNat - 48)
      if next > maxExponent then (none, rest) else exponentDigits next rest
    else (some acc, c :: rest)

/-- Reads an exponent behind its letter. -/
def readExponent (positive : Bool) (significand : Nat) (start : Int) (b : Bytes) : Read Number :=
  let (up, b) := match b with
    | 43 :: rest => (true, rest)
    | 45 :: rest => (false, rest)
    | _ => (true, b)
  match b with
  | [] => fail []
  | c :: rest =>
    if isDigit c then
      match exponentDigits (c.toNat - 48) rest with
      | (some e, rest) =>
        let e : Int := if up then start + e else start - e
        match scaled positive significand (clampExponent e) with
        | some x => done (.float x) rest
        | none => fail rest
      | (none, rest) =>
        if significand ≠ 0 ∧ up then fail rest
        else done (.float (if positive then 0.0 else -0.0)) (skipDigits rest)
    else fail rest

/-- Reads an exponent if there is one and makes the float. -/
def finishFloat (positive : Bool) (significand : Nat) (exponent : Int) (b : Bytes) : Read Number :=
  match b with
  | 101 :: rest => readExponent positive significand exponent rest
  | 69 :: rest => readExponent positive significand exponent rest
  | _ =>
    match scaled positive significand exponent with
    | some x => done (.float x) b
    | none => fail b

/-- The digits behind a decimal point: the significand, how many digits went into it, and the rest.
Digits that no longer fit 64 bits are dropped; `cut` says whether there were any. -/
def fractionDigits (significand count : Nat) : Bytes → Nat × Nat × Bool × Bytes
  | [] => (significand, count, false, [])
  | c :: rest =>
    if isDigit c then
      let next := significand * 10 + (c.toNat - 48)
      if next ≥ 2 ^ (64 : Nat) then (significand, count, true, skipDigits (c :: rest))
      else fractionDigits next (count + 1) rest
    else (significand, count, false, c :: rest)

/-- Reads the digits behind a decimal point. -/
def readFraction (positive : Bool) (significand : Nat) (before : Int) (b : Bytes) : Read Number :=
  match fractionDigits significand 0 b with
  | (s, count, cut, rest) =>
    if count = 0 ∧ !cut then fail rest
    else finishFloat positive s (before - count) rest

/-- Goes on behind the whole part of a number whose first `n` digits beyond 64 bits were dropped. -/
def finishLong (positive : Bool) (significand : Nat) (n : Nat) : Bytes → Read Number
  | [] => finishFloat positive significand n []
  | c :: rest =>
    if isDigit c then finishLong positive significand (n + 1) rest
    else if c = 46 then readFraction positive significand n rest
    else finishFloat positive significand n (c :: rest)

/-- Goes on behind the whole part of a number. -/
def finishWhole (positive : Bool) (significand : Nat) (b : Bytes) : Read Number :=
  match b with
  | 46 :: rest => readFraction positive significand 0 rest
  | 101 :: rest => readExponent positive significand 0 rest
  | 69 :: rest => readExponent positive significand 0 rest
  | _ =>
    if positive then done (.int significand) b
    else if significand = 0 ∨ significand > 2 ^ (63 : Nat) then
      done (.float (-(Float.ofNat significand))) b
    else done (.int (-(significand : Int))) b

/-- The digits of the whole part behind the first one. -/
def wholeDigits (positive : Bool) (significand : Nat) : Bytes → Read Number
  | [] => finishWhole positive significand []
  | c :: rest =>
    if isDigit c then
      let next := significand * 10 + (c.toNat - 48)
      if next ≥ 2 ^ (64 : Nat) then finishLong positive significand 0 (c :: rest)
      else wholeDigits positive next rest
    else finishWhole positive significand (c :: rest)

/-- Reads a number behind its sign. -/
def unsigned (positive : Bool) : Bytes → Read Number
  | [] => fail []
  | 48 :: rest =>
    match rest with
    | c :: _ => if isDigit c then fail rest else finishWhole positive 0 rest
    | [] => finishWhole positive 0 []
  | c :: rest =>
    if isDigit c then wholeDigits positive (c.toNat - 48) rest else fail rest

/-- Reads a number. -/
def number : Bytes → Read Number
  | 45 :: rest => unsigned false rest
  | b => unsigned true b

/-- Passes an exponent behind its letter. -/
def skipExponent (b : Bytes) : Read Unit :=
  let b := match b with
    | 43 :: rest => rest
    | 45 :: rest => rest
    | _ => b
  match b with
  | [] => fail []
  | c :: rest => if isDigit c then done () (skipDigits rest) else fail rest

/-- Passes the exponent of a number if there is one. -/
def skipExponent? (b : Bytes) : Read Unit :=
  match b with
  | 101 :: rest => skipExponent rest
  | 69 :: rest => skipExponent rest
  | _ => done () b

/-- Passes a number behind its sign. -/
def skipUnsigned : Bytes → Read Unit
  | [] => fail []
  | 48 :: rest =>
    match rest with
    | c :: _ => if isDigit c then fail rest else tail rest
    | [] => done () []
  | c :: rest => if isDigit c then tail (skipDigits rest) else fail rest
where
  /-- What may follow the whole part. -/
  tail (b : Bytes) : Read Unit :=
    match b with
    | 46 :: rest =>
      match rest with
      | c :: _ => if isDigit c then skipExponent? (skipDigits rest) else fail rest
      | [] => fail []
    | _ => skipExponent? b

/-- Passes a number. -/
def skipNumber : Bytes → Read Unit
  | 45 :: rest => skipUnsigned rest
  | b => skipUnsigned b

/-! ### Texts -/

/-- The value of a hexadecimal digit. -/
def hexValue? (b : UInt8) : Option Nat :=
  let n := b.toNat
  if 48 ≤ n && n ≤ 57 then some (n - 48)
  else if 97 ≤ n && n ≤ 102 then some (n - 87)
  else if 65 ≤ n && n ≤ 70 then some (n - 55)
  else none

/-- Reads the four digits of an escaped code unit. -/
def hexUnit (b : Bytes) : Read Nat :=
  match b with
  | a :: b :: c :: d :: rest =>
    match hexValue? a, hexValue? b, hexValue? c, hexValue? d with
    | some a, some b, some c, some d => done (((a * 16 + b) * 16 + c) * 16 + d) rest
    | _, _, _, _ => fail rest
  | _ => fail []

/-- The byte that a one-letter escape stands for. -/
def simpleEscape? (c : UInt8) : Option UInt8 :=
  if c = 34 then some 34
  else if c = 92 then some 92
  else if c = 47 then some 47
  else if c = 98 then some 8
  else if c = 102 then some 12
  else if c = 110 then some 10
  else if c = 114 then some 13
  else if c = 116 then some 9
  else none

/-- The bytes of an escaped character behind the letter `u`.  A leading code unit needs a trailing
one right behind it. -/
def unicodeEscape (b : Bytes) : Read Bytes :=
  (hexUnit b).bind fun n rest =>
    if 0xDC00 ≤ n ∧ n ≤ 0xDFFF then fail rest
    else if 0xD800 ≤ n ∧ n ≤ 0xDBFF then
      match rest with
      | [] => fail []
      | 92 :: rest =>
        match rest with
        | [] => fail []
        | 117 :: rest =>
          (hexUnit rest).bind fun n2 rest =>
            if n2 < 0xDC00 ∨ n2 > 0xDFFF then fail rest
            else
              let code := (n - 0xD800) * 1024 + (n2 - 0xDC00) + 0x10000
              done (Bytes.ofText (Char.ofNat code).toString) rest
        | _ :: rest => fail rest
      | _ :: rest => fail rest
    else done (Bytes.ofText (Char.ofNat n).toString) rest

/-- The bytes of a text behind its opening quote, last byte first; `fuel` bounds its length. -/
def textBytes : Nat → Bytes → Bytes → Read Bytes
  | 0, _, b => fail b
  | _, _, [] => fail []
  | fuel + 1, acc, c :: rest =>
    if c = 34 then done acc rest
    else if c = 92 then
      match rest with
      | [] => fail []
      | 117 :: rest =>
        (unicodeEscape rest).bind fun bytes rest => textBytes fuel (bytes.reverse ++ acc) rest
      | e :: rest =>
        match simpleEscape? e with
        | some x => textBytes fuel (x :: acc) rest
        | none => fail rest
    else if c < 32 then fail rest
    else textBytes fuel (c :: acc) rest

/-- Reads a text behind its opening quote. -/
def text (b : Bytes) : Read String :=
  (textBytes (b.length + 1) [] b).bind fun bytes rest =>
    match Bytes.text? bytes.reverse with
    | some s => done s rest
    | none => fail rest

/-- Passes a text behind its opening quote. -/
def skipText : Nat → Bytes → Read Unit
  | 0, b => fail b
  | _, [] => fail []
  | fuel + 1, c :: rest =>
    if c = 34 then done () rest
    else if c = 92 then
      match rest with
      | [] => fail []
      | 117 :: rest => (hexUnit rest).bind fun _ rest => skipText fuel rest
      | e :: rest => if (simpleEscape? e).isSome then skipText fuel rest else fail rest
    else if c < 32 then fail (c :: rest)
    else skipText fuel rest

/-! ### Lists and objects -/

/-- Whether an item of a list follows: `some` with the bytes in front of it, `none` at the end (the
closing bracket is left).  A comma stands between items and not behind the last. -/
def nextItem (first : Bool) (b : Bytes) : Read (Option Unit) :=
  match skipSpace b with
  | 93 :: rest => done none (93 :: rest)
  | 44 :: rest =>
    if first then
      -- a value is then sought in front of the comma, and not found
      done (some ()) (44 :: rest)
    else
      match skipSpace rest with
      | 93 :: rest => fail (93 :: rest)
      | [] => fail []
      | rest => done (some ()) rest
  | [] => fail []
  | c :: rest => if first then done (some ()) (c :: rest) else fail (c :: rest)

/-- Takes the closing bracket of a list. -/
def endList (b : Bytes) : Read Unit :=
  match skipSpace b with
  | 93 :: rest => done () rest
  | 44 :: rest => fail (skipSpace rest)
  | rest => fail rest

/-- The key of the next member of an object, behind its opening quote, or `none` at the end (the
closing brace is left). -/
def nextKey (first : Bool) (b : Bytes) : Read (Option Unit) :=
  match skipSpace b with
  | 125 :: rest => done none (125 :: rest)
  | 44 :: rest =>
    if first then fail (44 :: rest)
    else
      match skipSpace rest with
      | 34 :: rest => done (some ()) rest
      | rest => fail rest
  | 34 :: rest => if first then done (some ()) rest else fail (34 :: rest)
  | rest => fail rest

/-- Takes the closing brace of an object. -/
def endObject (b : Bytes) : Read Unit :=
  match skipSpace b with
  | 125 :: rest => done () rest
  | rest => fail rest

/-- Takes the colon between key and value. -/
def colon (b : Bytes) : Read Unit :=
  match skipSpace b with
  | 58 :: rest => done () rest
  | rest => fail rest

mutual

/-- Passes a value of any depth. -/
def skipValue : Nat → Bytes → Read Unit
  | 0, b => fail b
  | fuel + 1, b =>
    match skipSpace b with
    | [] => fail []
    | 110 :: rest => literal [117, 108, 108] rest
    | 116 :: rest => literal [114, 117, 101] rest
    | 102 :: rest => literal [97, 108, 115, 101] rest
    | 34 :: rest => skipText (rest.length + 1) rest
    | 91 :: rest => skipItems fuel true rest
    | 123 :: rest => skipMembers fuel true rest
    | c :: rest => if c = 45 || isDigit c then skipNumber (c :: rest) else fail (c :: rest)

/-- Passes the items of a list and its end. -/
def skipItems : Nat → Bool → Bytes → Read Unit
  | 0, _, b => fail b
  | fuel + 1, first, b =>
    (nextItem first b).bind fun next rest =>
      match next with
      | none => endList rest
      | some () => (skipValue fuel rest).bind fun _ rest => skipItems fuel false rest

/-- Passes the members of an object and its end. -/
def skipMembers : Nat → Bool → Bytes → Read Unit
  | 0, _, b => fail b
  | fuel + 1, first, b =>
    (nextKey first b).bind fun next rest =>
      match next with
      | none => endObject rest
      | some () =>
        (skipText (rest.length + 1) rest).bind fun _ rest =>
          (colon rest).bind fun _ rest =>
            (skipValue fuel rest).bind fun _ rest => skipMembers fuel false rest

end

/-- Enough fuel for any value in the bytes. -/
def fuelFor (b : Bytes) : Nat :=
  2 * b.length + 4

/-- Passes a value. -/
def skip (b : Bytes) : Read Unit :=
  skipValue (fuelFor b) b

mutual

/-- Reads a value with at most `depth - 1` lists and objects inside one another.  The members of an
object stand as they were written, also those with one key. -/
def readValue : Nat → Nat → Bytes → Read Json
  | 0, _, b => fail b
  | fuel + 1, depth, b =>
    match skipSpace b with
    | [] => fail []
    | 110 :: rest => (literal [117, 108, 108] rest).map fun _ => .null
    | 116 :: rest => (literal [114, 117, 101] rest).map fun _ => .bool true
    | 102 :: rest => (literal [97, 108, 115, 101] rest).map fun _ => .bool false
    | 34 :: rest => (text rest).map .str
    | 91 :: rest =>
      if depth ≤ 1 then fail (91 :: rest)
      else ((readItems fuel (depth - 1) true rest).closedBy endList).map .arr
    | 123 :: rest =>
      if depth ≤ 1 then fail (123 :: rest)
      else ((readMembers fuel (depth - 1) true rest).closedBy endObject).map .obj
    | c :: rest =>
      if c = 45 || isDigit c then
        (number (c :: rest)).map fun n => match n with
          | .int n => .int n
          | .float x => .float x
      else fail (c :: rest)

/-- Reads the items of a list up to its end. -/
def readItems : Nat → Nat → Bool → Bytes → Read (List Json)
  | 0, _, _, b => fail b
  | fuel + 1, depth, first, b =>
    (nextItem first b).bind fun next rest =>
      match next with
      | none => done [] rest
      | some () =>
        (readValue fuel depth rest).bind fun j rest =>
          (readItems fuel depth false rest).map (j :: ·)

/-- Reads the members of an object up to its end. -/
def readMembers : Nat → Nat → Bool → Bytes → Read (List (String × Json))
  | 0, _, _, b => fail b
  | fuel + 1, depth, first, b =>
    (nextKey first b).bind fun next rest =>
      match next with
      | none => done [] rest
      | some () =>
        (text rest).bind fun key rest =>
          (colon rest).bind fun _ rest =>
            (readValue fuel depth rest).bind fun j rest =>
              (readMembers fuel depth false rest).map ((key, j) :: ·)

end

/-- The depth that a whole document may use. -/
def maxDepth : Nat := 128

/-- Reads a value that may use `depth` levels, its members as they were written. -/
def written (depth : Nat) (b : Bytes) : Read Json :=
  readValue (fuelFor b) depth b

/-- Reads a value that may use `depth` levels. -/
def value (depth : Nat) (b : Bytes) : Read Json :=
  (written depth b).map Json.byKey

/-- What was read if nothing but blanks is left. -/
def complete {α : Type} (r : Read α) : Option α :=
  match r.result with
  | none => none
  | some a => if (skipSpace r.rest).isEmpty then some a else none

/-- The value that a document holds. -/
def parse (b : Bytes) : Option Json :=
  complete (value maxDepth b)

end EdgeNode.Json
