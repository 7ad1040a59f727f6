import EdgeNode.Encoding.Base64
import EdgeNode.Text.Blank
import EdgeNode.Text.Split
/-!
# Armoured text

Binary data is written as Base64 between a begin line and an end line that carry the same label;
header lines may stand in front of the data, set apart by an empty line.
-/

namespace EdgeNode.Encoding.Pem

/-- Why a text is not armoured data. -/
inductive Error where
  /-- The begin or the end marker is absent. -/
  | malformedFraming
  /-- The begin label is empty. -/
  | missingBegin
  /-- The end label is empty. -/
  | missingEnd
  /-- The labels differ. -/
  | mismatch (begin' end' : String)
  /-- The data is not Base64. -/
  | invalidData (e : Base64.Error)
  /-- A header line has no colon. -/
  | invalidHeader (line : String)
deriving DecidableEq, Repr

/-- The wording of an error. -/
def Error.message : Error → String
  | .malformedFraming => "malformedframing"
  | .missingBegin => "missing BEGIN tag"
  | .missingEnd => "missing END tag"
  | .mismatch b e => "mismatching BEGIN (\"" ++ b ++ "\") and END (\"" ++ e ++ "\") tags"
  | .invalidData e => "invalid data: " ++ e.message
  | .invalidHeader line => "invalid header: " ++ line

/-- Cuts a text at a marker: what stands before and behind it.  A mismatch inside the marker starts
the search again behind the character that did not fit. -/
def cutAt (marker : List Char) (cs : List Char) : Option (List Char × List Char) :=
  go marker [] cs
where
  /-- Looks for the rest of the marker; `acc` holds what was passed, last first. -/
  go (left : List Char) (acc : List Char) : List Char → Option (List Char × List Char)
    | [] => if left.isEmpty then some ((acc.drop marker.length).reverse, []) else none
    | c :: cs =>
      match left with
      | [] => some ((acc.drop marker.length).reverse, c :: cs)
      | m :: left => if c = m then go left (c :: acc) cs else go marker (c :: acc) cs

/-- Whether a character may stand between the begin line and the data. -/
def isSpace (c : Char) : Bool :=
  c == ' ' || c == '\t' || c == '\n' || c == '\r'

/-- The parts of an armoured text. -/
structure Parts where
  /-- The begin label. -/
  first : String
  /-- The header lines, as one text. -/
  headers : String
  /-- The Base64 text. -/
  data : List Char
  /-- The end label. -/
  last : String

/-- Takes headers and data apart at the first empty line. -/
def splitHeaders (body : List Char) : List Char × List Char :=
  match cutAt ['\n', '\n'] body with
  | some parts => parts
  | none =>
    match cutAt ['\r', '\n', '\r', '\n'] body with
    | some parts => parts
    | none => ([], body)

/-- Finds the parts of an armoured text. -/
def parts? (cs : List Char) : Option Parts := do
  let (_, cs) ← cutAt "-----BEGIN ".toList cs
  let (first, cs) ← cutAt "-----".toList cs
  let (body, cs) ← cutAt "-----END ".toList (cs.dropWhile isSpace)
  let (last, _) ← cutAt "-----".toList cs
  let (headers, data) := splitHeaders body
  return { first := String.ofList first, headers := String.ofList headers, data,
           last := String.ofList last }

/-- The first header line without a colon. -/
def badHeader? (headers : String) : Option String :=
  (Text.lines headers).find? (fun line => !line.contains ':')
    |>.map String.ofList

/-- The data of an armoured text. -/
def decode (s : String) : Except Error Bytes :=
  match parts? s.toList with
  | none => .error .malformedFraming
  | some p =>
    if p.first.isEmpty then .error .missingBegin
    else if p.last.isEmpty then .error .missingEnd
    else if p.first ≠ p.last then .error (.mismatch p.first p.last)
    else
      let symbols := Bytes.ofText (String.ofList (p.data.filter fun c => !Text.isBlank c))
      match Base64.standard.decode symbols with
      | .error e => .error (.invalidData e)
      | .ok bytes =>
        match badHeader? p.headers with
        | some line => .error (.invalidHeader line)
        | none => .ok bytes

/-- Cuts a list into runs of at most `n` characters; `fuel` bounds their number. -/
def runs (n : Nat) : Nat → List Char → List (List Char)
  | 0, _ => []
  | fuel + 1, cs => if cs.isEmpty then [] else cs.take n :: runs n fuel (cs.drop n)

/-- Armours some bytes under a label, in lines of 64 symbols. -/
def encode (label : String) (b : Bytes) : String :=
  let symbols := Base64.standard.encodeChars b
  let body := (runs 64 symbols.length symbols).map fun line => String.ofList line ++ "\n"
  "-----BEGIN " ++ label ++ "-----\n" ++ String.join body ++ "-----END " ++ label ++ "-----\n"

end EdgeNode.Encoding.Pem
