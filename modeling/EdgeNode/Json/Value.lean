import EdgeNode.Keyed
/-!
# JSON values

Numbers are whole numbers between `-2 ^ 63` and `2 ^ 64 - 1` or floats; the members of an object
are listed by key.
-/

namespace EdgeNode

/-- A JSON value. -/
inductive Json where
  /-- The value `null`. -/
  | null
  /-- A truth value. -/
  | bool (b : Bool)
  /-- A whole number. -/
  | int (n : Int)
  /-- Any other number. -/
  | float (x : Float)
  /-- A text. -/
  | str (s : String)
  /-- A list. -/
  | arr (items : List Json)
  /-- An object, its members listed by key. -/
  | obj (members : List (String × Json))
deriving Inhabited

namespace Json

instance : Coe String Json := ⟨.str⟩
instance : Coe Bool Json := ⟨.bool⟩
instance : Coe Nat Json := ⟨fun n => .int n⟩

/-- An object from its members in any order; of two with one key the later counts. -/
def ofMembers (l : List (String × Json)) : Json :=
  .obj (Keyed.ofList l)

mutual

/-- The value with the members of every object listed by key; of two with one key the later
counts. -/
def byKey : Json → Json
  | .arr items => .arr (itemsByKey items)
  | .obj members => ofMembers (membersByKey members)
  | j => j

/-- Values with the members of every object listed by key. -/
def itemsByKey : List Json → List Json
  | [] => []
  | j :: rest => byKey j :: itemsByKey rest

/-- Members with the members of every object in their values listed by key. -/
def membersByKey : List (String × Json) → List (String × Json)
  | [] => []
  | (key, j) :: rest => (key, byKey j) :: membersByKey rest

end

/-- The value, or `null` where there is none. -/
def ofOption {α : Type} (f : α → Json) : Option α → Json
  | none => .null
  | some a => f a

/-- The list of the values. -/
def ofList {α : Type} (f : α → Json) (l : List α) : Json :=
  .arr (l.map f)

/-- A list of texts. -/
def texts (l : List String) : Json :=
  ofList .str l

/-- The member of an object, `null` where it is absent or the value is no object. -/
def get (j : Json) (key : String) : Json :=
  match j with
  | .obj members => (Keyed.get? members key).getD .null
  | _ => .null

/-- The members of an object; none for any other value. -/
def members : Json → List (String × Json)
  | .obj ms => ms
  | _ => []

/-- The object with one more member. -/
def set (j : Json) (key : String) (value : Json) : Json :=
  match j with
  | .obj ms => .obj (Keyed.insert ms key value)
  | other => other

/-- The text of a text value. -/
def text? : Json → Option String
  | .str s => some s
  | _ => none

/-- The number of a whole, nonnegative number. -/
def nat? : Json → Option Nat
  | .int n => if n ≥ 0 then some n.toNat else none
  | _ => none

/-- The truth value. -/
def bool? : Json → Option Bool
  | .bool b => some b
  | _ => none

/-- The items of a list; none for any other value. -/
def items : Json → List Json
  | .arr l => l
  | _ => []

/-- The number as a float. -/
def float? : Json → Option Float
  | .int n => some (Float.ofInt n)
  | .float x => some x
  | _ => none

/-- Whether the value is `null`. -/
def isNull : Json → Bool
  | .null => true
  | _ => false

/-! ### Members with a default -/

/-- The text at a key, or the given one where there is none. -/
def textAt (j : Json) (key dflt : String) : String :=
  (j.get key).text?.getD dflt

/-- The number at a key, or the given one where there is none. -/
def natAt (j : Json) (key : String) (dflt : Nat) : Nat :=
  (j.get key).nat?.getD dflt

/-- Whether the value at a key is true. -/
def flagAt (j : Json) (key : String) : Bool :=
  (j.get key).bool?.getD false

/-- The texts in the list at a key. -/
def textsAt (j : Json) (key : String) : List String :=
  (j.get key).items.filterMap text?

/-- Whether there is a value other than `null` at a key. -/
def hasAt (j : Json) (key : String) : Bool :=
  !(j.get key).isNull

mutual

/-- Every text in a value replaced, keys too. -/
def mapTexts (f : String → String) : Json → Json
  | .str s => .str (f s)
  | .arr l => .arr (mapTextsList f l)
  | .obj ms => .obj (mapTextsMembers f ms)
  | .null => .null
  | .bool b => .bool b
  | .int n => .int n
  | .float x => .float x

/-- Every text in a list of values replaced. -/
def mapTextsList (f : String → String) : List Json → List Json
  | [] => []
  | j :: rest => mapTexts f j :: mapTextsList f rest

/-- Every text in a list of members replaced. -/
def mapTextsMembers (f : String → String) : List (String × Json) → List (String × Json)
  | [] => []
  | (key, j) :: rest => (f key, mapTexts f j) :: mapTextsMembers f rest

end

end Json

end EdgeNode
