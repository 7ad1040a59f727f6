import EdgeNode.Encoding.Der
/-!
# Reading tagged elements

A reader takes an element off the front of some bytes and gives its content and the bytes behind
it.  It goes by the number of the tag; the class, and whether the element is composed, count only
where a reader says so.

A length may have more bytes than it needs.  An element without one, whose content ends at a mark,
is read only by `passLoose`.
-/

namespace EdgeNode.Encoding.Der

-- powers are those of the core library, whatever else is imported
attribute [local instance (high)] instPowNat

/-- The class of a tag. -/
inductive TagClass where
  /-- Tags with one meaning everywhere. -/
  | universal
  /-- Tags of an application. -/
  | application
  /-- Tags with a meaning where they stand. -/
  | context
  /-- Tags by agreement. -/
  | agreed
deriving DecidableEq, Repr

/-- The class that the high bits of a first byte tell. -/
def TagClass.ofBits (n : Nat) : TagClass :=
  if n = 0 then .universal else if n = 1 then .application else if n = 2 then .context else .agreed

/-- What stands in front of the content of an element. -/
structure Header where
  /-- The class of the tag. -/
  tagClass : TagClass
  /-- Whether the content is a row of elements. -/
  isComposed : Bool
  /-- The number of the tag. -/
  number : Nat
  /-- The length of the content, unless a mark ends it. -/
  length : Option Nat
deriving DecidableEq, Repr

/-- An element. -/
structure Element where
  /-- What stands in front of the content. -/
  header : Header
  /-- The content. -/
  content : Bytes
deriving DecidableEq, Repr

/-- The number of the element's tag. -/
def Element.number (e : Element) : Nat :=
  e.header.number

/-- Takes a number of seven bits a byte off, of at most so many bytes; it is cut to 32 bits. -/
def takeLongNumber (acc : Nat) : Nat → Bytes → Option (Nat × Bytes)
  | left + 1, b :: rest =>
    let n := (acc * 128 + b.toNat % 128) % 2 ^ (32 : Nat)
    if b.toNat < 128 then some (n, rest) else takeLongNumber n left rest
  | _, _ => none

/-- Takes the number of a tag off behind the low bits of its first byte. -/
def takeTagNumber (low : Nat) (b : Bytes) : Option (Nat × Bytes) :=
  if low = 31 then takeLongNumber 0 5 b else some (low, b)

/-- Takes a length of 64 bits at most off; `none` inside stands for content that a mark ends. -/
def takeLength : Bytes → Option (Option Nat × Bytes)
  | [] => none
  | b :: rest =>
    let n := b.toNat
    if n < 128 then some (some n, rest)
    else if n = 128 then some (none, rest)
    else
      let digits := rest.take (n - 128)
      if n = 255 ∨ rest.length < n - 128 ∨ Bytes.toNatBig digits ≥ 2 ^ (64 : Nat) then none
      else some (some (Bytes.toNatBig digits), rest.drop (n - 128))

/-- Takes what stands in front of the content off. -/
def takeHeader : Bytes → Option (Header × Bytes)
  | [] => none
  | first :: rest =>
    let n := first.toNat
    match takeTagNumber (n % 32) rest with
    | none => none
    | some (number, rest) =>
      (takeLength rest).map fun (length, rest) =>
        ({ tagClass := .ofBits (n / 64), isComposed := n / 32 % 2 = 1, number, length }, rest)

/-- Takes an element off. -/
def take (b : Bytes) : Option (Element × Bytes) :=
  match takeHeader b with
  | some (header, rest) =>
    match header.length with
    | some n =>
      if rest.length < n then none else some (⟨header, rest.take n⟩, rest.drop n)
    | none => none
  | none => none

/-- Takes an element with a number off. -/
def takeTag (number : Nat) (b : Bytes) : Option (Bytes × Bytes) :=
  match take b with
  | some (e, rest) => if e.number = number then some (e.content, rest) else none
  | none => none

/-- Takes an object identifier off: whatever is not composed can be one. -/
def takeObject (b : Bytes) : Option (Bytes × Bytes) :=
  match take b with
  | some (e, rest) => if e.header.isComposed then none else some (e.content, rest)
  | none => none

/-- Takes a byte string off. -/
def takeOctets (b : Bytes) : Option (Bytes × Bytes) :=
  match take b with
  | some (e, rest) =>
    if e.number = tagOctets ∧ ¬ e.header.isComposed then some (e.content, rest) else none
  | none => none

/-- Whether some bytes are the content of a bit string: the count of unused bits, and bytes whose
last has that many zeros at its end. -/
def areBits : Bytes → Bool
  | [] => false
  | [unused] => unused == 0
  | unused :: rest =>
    unused.toNat ≤ 8 && (rest.getLast?.getD 0).toNat % 2 ^ unused.toNat == 0

/-- Passes a bit string. -/
def passBits (b : Bytes) : Option Bytes :=
  match take b with
  | some (e, rest) =>
    if e.number = tagBits ∧ ¬ e.header.isComposed ∧ areBits e.content then some rest else none
  | none => none

/-- Whether some bytes are the content of a whole number: not empty, and none of the first nine bits
can be spared. -/
def isInteger : Bytes → Bool
  | [] => false
  | a :: b :: _ => !(a == 0 && b.toNat < 128) && !(a == 255 && b.toNat ≥ 128)
  | [_] => true

/-- The whole number of at most 32 bits, none of them a sign, with some content. -/
def natOf? (content : Bytes) : Option Nat :=
  let n := Bytes.toNatBig content
  if isInteger content ∧ (content.head?.getD 0).toNat < 128 ∧ n < 2 ^ (32 : Nat) then some n
  else none

/-- Takes a whole number of at most 32 bits off, none of them a sign. -/
def takeNat (b : Bytes) : Option (Nat × Bytes) :=
  match take b with
  | some (e, rest) =>
    if e.number = tagInteger ∧ ¬ e.header.isComposed then (natOf? e.content).map (·, rest) else none
  | none => none

/-! ### Rows -/

/-- Takes as much off as can be read one after another; `fuel` bounds the number. -/
def takeRow {α : Type} (takeOne : Bytes → Option (α × Bytes)) : Nat → Bytes → List α × Bytes
  | 0, b => ([], b)
  | fuel + 1, b =>
    match takeOne b with
    | none => ([], b)
    | some (a, rest) =>
      match takeRow takeOne fuel rest with
      | (row, rest) => (a :: row, rest)

/-- Takes as much off as can be read one after another. -/
def takeMany {α : Type} (takeOne : Bytes → Option (α × Bytes)) (b : Bytes) : List α × Bytes :=
  takeRow takeOne b.length b

/-- What some bytes hold to their end. -/
def all? {α : Type} (takeOne : Bytes → Option (α × Bytes)) (b : Bytes) : Option (List α) :=
  match takeMany takeOne b with
  | (row, rest) => if rest.isEmpty then some row else none

/-! ### Content that a mark ends -/

/-- Passes a row of elements and the empty element with the number zero that ends it.  `depth` says
how many rows, one inside another, may still begin, and `fuel` bounds the number of elements. -/
def passMarked : Nat → Nat → Bytes → Option Bytes
  | fuel + 1, depth + 1, b =>
    match takeHeader b with
    | none => none
    | some (h, rest) =>
      match h.length with
      | some n =>
        if n = 0 ∧ h.number = 0 then some rest
        else if rest.length < n then none
        else passMarked fuel (depth + 1) (rest.drop n)
      | none =>
        if h.isComposed then
          match passMarked fuel depth rest with
          | some rest => passMarked fuel (depth + 1) rest
          | none => none
        else none
  | _, _, _ => none

/-- How many rows of elements that a mark ends may stand inside one another. -/
def maxDepth : Nat := 49

/-- Passes an element with a number, also one whose content a mark ends. -/
def passLoose (number : Nat) (b : Bytes) : Option Bytes :=
  match takeHeader b with
  | some (h, rest) =>
    if h.number ≠ number then none
    else
      match h.length with
      | some n => if rest.length < n then none else some (rest.drop n)
      | none => if h.isComposed then passMarked (rest.length + 1) maxDepth rest else none
  | none => none

end EdgeNode.Encoding.Der
