/-!
# Splitting at a character

`split sep cs` cuts a list of characters at every occurrence of `sep`; there is always at least
one piece, and joining the pieces gives the list back.
-/

namespace EdgeNode.Text

/-- The pieces of a list between the occurrences of a separator. -/
def split (sep : Char) : List Char → List (List Char)
  | [] => [[]]
  | c :: cs =>
    if c = sep then [] :: split sep cs
    else match split sep cs with
      | [] => [[c]]
      | piece :: pieces => (c :: piece) :: pieces

/-- The pieces in order with the separator between any two. -/
def join (sep : Char) : List (List Char) → List Char
  | [] => []
  | [piece] => piece
  | piece :: pieces => piece ++ sep :: join sep pieces

/-- The pieces of a text between the occurrences of a separator. -/
def pieces (sep : Char) (s : String) : List String :=
  (split sep s.toList).map String.ofList

theorem split_ne_nil (sep : Char) (cs : List Char) : split sep cs ≠ [] := by
  cases cs with
  | nil => simp [split]
  | cons c cs =>
    simp only [split]
    split
    · simp
    · split <;> simp

@[simp] theorem join_split (sep : Char) (cs : List Char) : join sep (split sep cs) = cs := by
  induction cs with
  | nil => rfl
  | cons c cs ih =>
    cases h : split sep cs with
    | nil => exact absurd h (split_ne_nil sep cs)
    | cons piece rest =>
      rw [h] at ih
      by_cases hc : c = sep
      · simp [split, hc, h, join, ih]
      · cases rest with
        | nil => simp_all [split, join]
        | cons next rest => simp_all [split, join]

/-- The lines of a text: it is cut at every line feed, one carriage return before the line feed
goes with it, and nothing after a last line feed is no line. -/
def lines (s : String) : List (List Char) :=
  go (split '\n' s.toList)
where
  /-- Every piece but the last was ended by a line feed. -/
  go : List (List Char) → List (List Char)
    | [] => []
    | [last] => if last.isEmpty then [] else [last]
    | line :: rest => dropReturn line :: go rest
  /-- The line without one carriage return at its end. -/
  dropReturn (line : List Char) : List Char :=
    match line.reverse with
    | '\r' :: kept => kept.reverse
    | _ => line

end EdgeNode.Text
