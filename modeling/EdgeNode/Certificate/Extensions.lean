import EdgeNode.Certificate.Name
/-!
# Extensions of certificates

An extension is a kind, which is an object identifier, and a value in binary form.  Read here are
the names and addresses that a certificate is for and whether it may sign others.  An extension
that stands there twice or cannot be read counts as absent.
-/

namespace EdgeNode

open Encoding

/-! ### Addresses -/

/-- Four bytes as an address. -/
def showFour (b : Bytes) : String :=
  ".".intercalate (b.map fun x => toString x.toNat)

/-- Cuts bytes into numbers of sixteen bits. -/
def groups : Bytes → List Nat
  | a :: b :: rest => (a.toNat * 256 + b.toNat) :: groups rest
  | _ => []

/-- How many zeros stand at the front. -/
def zeroRun (l : List Nat) : Nat :=
  (l.takeWhile (· == 0)).length

/-- Where the first longest run of zeros begins, and its length. -/
def longestRun (l : List Nat) : Nat × Nat :=
  (List.range l.length).foldl (fun best i =>
    let n := zeroRun (l.drop i)
    if n > best.2 then (i, n) else best) (0, 0)

/-- Sixteen bytes as an address: hexadecimal groups, the longest run of zeros left out. -/
def showSixteen (b : Bytes) : String :=
  let gs := groups b
  let hex (l : List Nat) := ":".intercalate (l.map Hex.ofNat)
  if gs.take 6 = [0, 0, 0, 0, 0, 0xFFFF] then "::ffff:" ++ showFour (b.drop 12)
  else
    let (start, n) := longestRun gs
    if n < 2 then hex gs else hex (gs.take start) ++ "::" ++ hex (gs.drop (start + n))

example : showSixteen [0x20, 1, 0xd, 0xb8, 0, 0, 0, 0, 0, 0, 0, 0, 0, 0, 0, 1] = "2001:db8::1" := by
  decide +kernel

/-! ### Names a certificate is for -/

/-- A name that a certificate is for. -/
inductive AltName where
  /-- A host name. -/
  | dns (name : String)
  /-- An address. -/
  | address (b : Bytes)
  /-- Any other. -/
  | other
deriving DecidableEq, Repr

namespace AltName

/-- The name in an element; its number tells what it is. -/
def ofElement (e : Der.Element) : Option AltName :=
  let text := Bytes.text? e.content
  if e.header.tagClass ≠ .context then none
  else
    match e.number with
    | 0 => (Der.takeObject e.content).map fun _ => .other
    | 1 => text.map fun _ => .other
    | 2 => text.map .dns
    | 3 => some .other
    | 4 =>
      match DistinguishedName.take e.content with
      | some (_, []) => some .other
      | _ => none
    | 5 => some .other
    | 6 => text.map fun _ => .other
    | 7 => some (.address e.content)
    | 8 => some .other
    | _ => none

/-- Takes a name off. -/
def take (b : Bytes) : Option (AltName × Bytes) :=
  match Der.take b with
  | some (e, rest) => (ofElement e).map (·, rest)
  | none => none

/-- Reads all names. -/
def readAll (value : Bytes) : Option (List AltName) :=
  match Der.takeTag Der.tagSequence value with
  | some (content, _) => Der.all? take content
  | none => none

/-- The host name. -/
def dns? : AltName → Option String
  | .dns name => some name
  | _ => none

/-- The text of an address of four or sixteen bytes. -/
def address? : AltName → Option String
  | .address b =>
    if b.length = 4 then some (showFour b)
    else if b.length = 16 then some (showSixteen b)
    else none
  | _ => none

end AltName

/-! ### Extensions -/

/-- An extension. -/
structure Extension where
  /-- Its kind. -/
  object : Bytes
  /-- Its value. -/
  value : Bytes
deriving DecidableEq, Repr

namespace Extension

-- powers are those of the core library, whatever else is imported
attribute [local instance (high)] instPowNat

/-- Passes the mark of an extension that must be understood, if it is there. -/
def passMark (b : Bytes) : Bytes :=
  match Der.takeTag Der.tagBoolean b with
  | some ([_], rest) => rest
  | _ => b

/-- Takes an extension off. -/
def take (b : Bytes) : Option (Extension × Bytes) := do
  let (content, rest) ← Der.takeTag Der.tagSequence b
  let (object, content) ← Der.takeObject content
  let (value, _) ← Der.takeOctets (passMark content)
  return ({ object, value }, rest)

/-- Reads the extensions at the end of the signed part: one sequence behind a header with the
number three, both up to the end. -/
def readAll (b : Bytes) : Option (List Extension) :=
  if b.isEmpty then some []
  else
    match Der.takeHeader b with
    | none => none
    | some (header, rest) =>
      if header.number ≠ 3 ∨ header.length = none then none
      else
        match Der.takeTag Der.tagSequence rest with
        | some (content, []) => Der.all? take content
        | _ => none

/-- The value of the only extension of a kind. -/
def only? (kind : List Nat) (l : List Extension) : Option Bytes :=
  match l.filter fun e => e.object == Der.objectBytes kind with
  | [e] => some e.value
  | _ => none

/-! ### Authorities -/

/-- Whether an element is of a kind that its number alone tells. -/
def isPlain (e : Der.Element) : Bool :=
  e.header.tagClass == .universal || e.header.tagClass == .agreed

/-- The truth value in an element: all bits are set, or none. -/
def flag? (e : Der.Element) : Option Bool :=
  if isPlain e ∧ e.number = Der.tagBoolean then
    if e.content = [0xFF] then some true else if e.content = [0] then some false else none
  else none

/-- The number that a string of bits spells. -/
def natOfBits (content : Bytes) : Nat :=
  Bytes.toNatBig (content.drop 1) / 2 ^ (content.head?.getD 0).toNat

/-- Whether an element tells how many authorities may stand below, in 32 bits: as a whole number, a
choice or a string of bits. -/
def isCount (e : Der.Element) : Bool :=
  isPlain e &&
    ((e.number == Der.tagInteger && (Der.natOf? e.content).isSome)
      || (e.number == Der.tagEnumerated && !e.header.isComposed
        && Bytes.toNatBig e.content < 2 ^ (32 : Nat))
      || (e.number == Der.tagBits && !e.header.isComposed && Der.areBits e.content
        && natOfBits e.content < 2 ^ (32 : Nat)))

/-- Whether a certificate may sign others: it says so, and at most how many may stand below. -/
def readAuthority (value : Bytes) : Option Bool :=
  match Der.take value with
  | none => none
  | some (e, _) =>
    if e.number ≠ Der.tagSequence ∨ ¬ e.header.isComposed then none
    else
      match Der.all? Der.take e.content with
      | some [] => some false
      | some [a] => flag? a
      | some [a, b] => if isCount b then flag? a else none
      | _ => none

end Extension

end EdgeNode
