/-!
# Blank characters and trimming

The blank characters are those with the Unicode property `White_Space`.  Configuration lines,
tokens and stored seeds are trimmed of them at both ends.
-/

namespace EdgeNode.Text

/-- Whether a character has the Unicode property `White_Space`. -/
def isBlank (c : Char) : Bool :=
  let n := c.toNat
  (0x09 ≤ n && n ≤ 0x0D) || n == 0x20 || n == 0x85 || n == 0xA0 || n == 0x1680 ||
  (0x2000 ≤ n && n ≤ 0x200A) || n == 0x2028 || n == 0x2029 || n == 0x202F || n == 0x205F ||
  n == 0x3000

/-- The characters from the first one that is not blank. -/
def trimLeft (cs : List Char) : List Char :=
  cs.dropWhile isBlank

/-- The characters up to the last one that is not blank. -/
def trimRight (cs : List Char) : List Char :=
  (cs.reverse.dropWhile isBlank).reverse

/-- The characters without the blank ones at either end. -/
def trim (cs : List Char) : List Char :=
  trimRight (trimLeft cs)

/-- The text without the blank characters at either end. -/
def trimmed (s : String) : String :=
  String.ofList (trim s.toList)

/-- The text with the letters `A` to `Z` in lower case. -/
def lowered (s : String) : String :=
  String.ofList (s.toList.map Char.toLower)

example : trimmed "\u2003 key \n" = "key" := by decide

end EdgeNode.Text
