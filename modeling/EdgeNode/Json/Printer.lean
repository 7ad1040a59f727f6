import EdgeNode.Bytes
import EdgeNode.Decimal.Shortest
import EdgeNode.Json.Value
/-!
# Writing JSON

Values are written on one line without blanks, or over several lines indented by two spaces.
Floats have the fewest digits that read back; they are positional from `1e-5` up to below `1e16`.
-/

namespace EdgeNode.Json

-- powers are those of the core library, whatever else is imported
attribute [local instance (high)] instPowNat

/-- Where positional writing of a float ends. -/
structure FloatLayout where
  /-- Numbers below ten to this power are positional. -/
  maxExponent : Int
  /-- Numbers from ten to this power on are positional. -/
  minExponent : Int

/-- The layout of floats in JSON documents. -/
def floatLayout : FloatLayout where
  maxExponent := 16
  minExponent := -5

/-- The text of decimal digits. -/
def layoutDigits (l : FloatLayout) (d : Decimal.Digits) : String :=
  let ds := Nat.toDigits 10 d.digits
  let point : Int := ds.length + d.exponent
  if 0 ≤ d.exponent ∧ point ≤ l.maxExponent then
    String.ofList (ds ++ List.replicate d.exponent.toNat '0') ++ ".0"
  else if 0 < point ∧ point ≤ l.maxExponent then
    String.ofList (ds.take point.toNat) ++ "." ++ String.ofList (ds.drop point.toNat)
  else if l.minExponent < point ∧ point ≤ 0 then
    "0." ++ String.ofList (List.replicate (-point).toNat '0' ++ ds)
  else
    let mantissa := match ds with
      | [c] => c.toString
      | c :: rest => c.toString ++ "." ++ String.ofList rest
      | [] => "0"
    mantissa ++ "e" ++ toString (point - 1)

/-- The text of a float; what is not finite has none and is written `null`. -/
def floatText (x : Float) : String :=
  let bits := x.toBits
  let sign := if bits.toNat ≥ 2 ^ (63 : Nat) then "-" else ""
  if (bits.toNat / 2 ^ (52 : Nat)) % 2048 = 2047 then "null"
  else if bits.toNat % 2 ^ (63 : Nat) = 0 then sign ++ "0.0"
  else sign ++ layoutDigits floatLayout (Decimal.shortest (Decimal.Binary.ofBits bits))

/-- A character of a text as it is written between quotes. -/
def escape (c : Char) : List Char :=
  if c = '"' then ['\\', '"']
  else if c = '\\' then ['\\', '\\']
  else if c = '\n' then ['\\', 'n']
  else if c = '\r' then ['\\', 'r']
  else if c = '\t' then ['\\', 't']
  else if c.toNat = 8 then ['\\', 'b']
  else if c.toNat = 12 then ['\\', 'f']
  else if c.toNat < 32 then
    ['\\', 'u', '0', '0', Nat.digitChar (c.toNat / 16), Nat.digitChar (c.toNat % 16)]
  else [c]

/-- A text between quotes. -/
def quote (s : String) : String :=
  "\"" ++ String.ofList (s.toList.flatMap escape) ++ "\""

mutual

/-- The value on one line. -/
def compact : Json → String
  | .null => "null"
  | .bool b => if b then "true" else "false"
  | .int n => toString n
  | .float x => floatText x
  | .str s => quote s
  | .arr l => "[" ++ ",".intercalate (compactItems l) ++ "]"
  | .obj ms => "\x7b" ++ ",".intercalate (compactMembers ms) ++ "\x7d"

/-- The items of a list on one line each. -/
def compactItems : List Json → List String
  | [] => []
  | j :: rest => compact j :: compactItems rest

/-- The members of an object on one line each. -/
def compactMembers : List (String × Json) → List String
  | [] => []
  | (key, j) :: rest => (quote key ++ ":" ++ compact j) :: compactMembers rest

end

/-- A line break followed by an indentation of `depth` levels. -/
def newline (depth : Nat) : String :=
  String.ofList ('\n' :: List.replicate (2 * depth) ' ')

mutual

/-- The value over several lines, nested `depth` levels deep. -/
def indented (depth : Nat) : Json → String
  | .arr [] => "[]"
  | .obj [] => "\x7b\x7d"
  | .arr l =>
    "[" ++ newline (depth + 1)
      ++ ("," ++ newline (depth + 1)).intercalate (indentedItems (depth + 1) l)
      ++ newline depth ++ "]"
  | .obj ms =>
    "\x7b" ++ newline (depth + 1)
      ++ ("," ++ newline (depth + 1)).intercalate (indentedMembers (depth + 1) ms)
      ++ newline depth ++ "\x7d"
  | .null => "null"
  | .bool b => if b then "true" else "false"
  | .int n => toString n
  | .float x => floatText x
  | .str s => quote s

/-- The items of a list, each over several lines. -/
def indentedItems (depth : Nat) : List Json → List String
  | [] => []
  | j :: rest => indented depth j :: indentedItems depth rest

/-- The members of an object, each over several lines. -/
def indentedMembers (depth : Nat) : List (String × Json) → List String
  | [] => []
  | (key, j) :: rest =>
    (quote key ++ ": " ++ indented depth j) :: indentedMembers depth rest

end

/-- The value over several lines. -/
def pretty (j : Json) : String :=
  indented 0 j

end EdgeNode.Json
