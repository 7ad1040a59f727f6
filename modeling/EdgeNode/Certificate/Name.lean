import EdgeNode.Certificate.ObjectNames
import EdgeNode.Encoding.Der.Reader
import EdgeNode.Encoding.Hex
import EdgeNode.Text.Units
/-!
# Distinguished names

A name is a row of sets of attributes, each an object identifier and a value.  A name ends before
the first part that is not such a set, and a set before the first part that is no attribute.
-/

namespace EdgeNode

/-- An attribute of a name. -/
structure Attribute where
  /-- Its object identifier. -/
  object : Bytes
  /-- Its value. -/
  value : Encoding.Der.Element
deriving DecidableEq, Repr

/-- A name: the attributes that stand together, in order. -/
structure DistinguishedName where
  /-- The sets of attributes. -/
  sets : List (List Attribute)
deriving DecidableEq, Repr

open Encoding

namespace Attribute

/-- Takes an attribute off. -/
def take (b : Bytes) : Option (Attribute × Bytes) := do
  let (content, rest) ← Der.takeTag Der.tagSequence b
  let (object, content) ← Der.takeObject content
  let (value, _) ← Der.take content
  return ({ object, value }, rest)

/-- Takes a set of attributes off, at least one of them. -/
def takeSet (b : Bytes) : Option (List Attribute × Bytes) :=
  match Der.takeTag Der.tagSet b with
  | none => none
  | some (content, rest) =>
    match (Der.takeMany take content).1 with
    | [] => none
    | attributes => some (attributes, rest)

/-- The tags of texts whose content is shown as it is. -/
def textTags : List Nat :=
  [7, Der.tagUtf8, Der.tagNumeric, Der.tagPrintable, 20, 21, Der.tagAscii, 25, 26, 27]

/-- The text of the value; a value that is no text is shown by its bytes. -/
def text? (a : Attribute) : Option String :=
  if textTags.contains a.value.number then Bytes.text? a.value.content
  else if a.value.number = Der.tagWide then
    (Text.ofUnits? (Text.unitsBig a.value.content)).map String.ofList
  else some ((Hex.encode a.value.content).map Char.toUpper)

/-- The attribute as it is shown in a name. -/
def show? (a : Attribute) : Option String :=
  a.text?.map fun text => ObjectNames.label a.object ++ "=" ++ text

end Attribute

namespace DistinguishedName

/-- Takes a name off. -/
def take (b : Bytes) : Option (DistinguishedName × Bytes) :=
  (Der.takeTag Der.tagSequence b).map fun (content, rest) =>
    (⟨(Der.takeMany Attribute.takeSet content).1⟩, rest)

/-- What is shown for a name with a text that cannot be read. -/
def unreadable : String := "<X509Error: Invalid X.509 name>"

/-- The text of a name. -/
def text (name : DistinguishedName) : String :=
  match name.sets.mapM fun set => (set.mapM Attribute.show?).map (" + ".intercalate ·) with
  | some parts => ", ".intercalate parts
  | none => unreadable

/-- The tags of texts that a common name may have. -/
def commonNameTags : List Nat :=
  [Der.tagUtf8, Der.tagNumeric, Der.tagPrintable, Der.tagAscii]

/-- The first common name; empty if there is none or it is no text of the permitted kinds. -/
def commonName (name : DistinguishedName) : String :=
  match name.sets.flatten.find? fun a => a.object == Der.objectBytes [2, 5, 4, 3] with
  | none => ""
  | some a =>
    if commonNameTags.contains a.value.number then (Bytes.text? a.value.content).getD "" else ""

end DistinguishedName

end EdgeNode
