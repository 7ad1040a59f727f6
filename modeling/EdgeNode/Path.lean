import EdgeNode.Text.Split
/-!
# Path texts

Paths are texts.  Joining and taking the parent look at the text alone and never at a file system.
-/

namespace EdgeNode.Path

/-- Whether a path starts at the root. -/
def isAbsolute (path : String) : Bool :=
  path.toList.head? == some '/'

/-- A path inside another.  An absolute second path replaces the first. -/
def join (base name : String) : String :=
  if isAbsolute name then name
  else if base.isEmpty || base.toList.getLast? == some '/' then base ++ name
  else base ++ "/" ++ name

/-- Whether a component says nothing about where a path leads. -/
def isIdle (component : List Char) : Bool :=
  component.isEmpty || component == ['.']

/-- The root or the leading dot of a path, and the rest. -/
def splitHead : List Char → List Char × List Char
  | '/' :: rest => (['/'], rest)
  | ['.'] => (['.'], [])
  | '.' :: '/' :: rest => (['.'], '/' :: rest)
  | cs => ([], cs)

/-- The path without its last component; none for the root and the empty path. -/
def parent? (path : String) : Option String :=
  let (head, body) := splitHead path.toList
  match (Text.split '/' body).reverse.dropWhile isIdle with
  | _ :: before =>
    some (String.ofList (head ++ Text.join '/' (before.dropWhile isIdle).reverse))
  | [] => if head == ['.'] then some "" else none

example : parent? "/etc/node/server.conf" = some "/etc/node" := by decide
example : parent? "server.conf" = some "" := by decide
example : parent? "a/./b/" = some "a" := by decide

end EdgeNode.Path
