import EdgeNode.Files
/-!
# Changes to a disk

A tree of files can stand for the part of a disk that somebody looked at.  What work on the tree
comes to is carried over to the disk as a list of changes, in an order in which each of them can be
made: what has to go goes first, and a directory is made before what lies in it.
-/

namespace EdgeNode.Files

/-! ### Looking at a disk -/

/-- What is found at a location of a disk. -/
inductive Sight where
  /-- Nothing. -/
  | nothing
  /-- A directory. -/
  | directory
  /-- A file with its content. -/
  | file (content : Bytes)
deriving DecidableEq, Repr

/-- Permission bits that no work ever gives.  They stand for those that a disk has and nobody looked
at, so that whatever is given later differs from them. -/
def unseenMode : Nat := 4096

/-- The entry for what was found. -/
def Sight.entry? : Sight → Option Entry
  | .nothing => none
  | .directory => some (.directory unseenMode)
  | .file content => some (.file content unseenMode)

/-- The locations that names lead through from a location; see `walk`. -/
def passed (here : Location) : List String → List Location
  | [] => []
  | name :: rest =>
    if name.isEmpty || name == "." then passed here rest
    else if name == ".." then passed here.dropLast rest
    else (here ++ [name]) :: passed (here ++ [name]) rest

/-- The locations that a path leads through. -/
def passedBy (current : Location) (path : String) : List Location :=
  match Text.pieces '/' path with
  | "" :: names => passed [] names
  | names => passed [] current ++ passed current names

/-- The text of a location. -/
def locationText (l : Location) : String :=
  "/" ++ String.intercalate "/" l

/-- The location of an absolute path. -/
def ofAbsolute (path : String) : Location :=
  (Text.pieces '/' path).filter fun name => !name.isEmpty

/-- The tree with what was found at a location. -/
def see (f : Files) (l : Location) (s : Sight) : Files :=
  match s.entry? with
  | some e => f.put l e
  | none => f

example : passedBy ["home", "node"] "../etc/server.conf" =
    [["home"], ["home", "node"], ["home", "etc"], ["home", "etc", "server.conf"]] := by decide
example : passedBy ["home"] "/etc" = [["etc"]] := by decide

/-! ### Changes -/

/-- A change to a disk. -/
inductive Change where
  /-- Removes a file. -/
  | removeFile (l : Location)
  /-- Removes a directory with all that lies below it. -/
  | removeDirectory (l : Location)
  /-- Makes a directory. -/
  | makeDirectory (l : Location)
  /-- Writes a file. -/
  | write (l : Location) (content : Bytes)
  /-- Gives permission bits. -/
  | setMode (l : Location) (mode : Nat)
deriving DecidableEq, Repr

/-- Whether what stood at a location is gone; something of the other kind may stand there now. -/
def isGone (new : Files) (l : Location) (old : Entry) : Bool :=
  match new.get? l with
  | none => true
  | some e => e.isDirectory != old.isDirectory

/-- How an entry goes.  What lies in a directory that goes needs no change of its own. -/
def removal (old new : Files) (l : Location) (e : Entry) : List Change :=
  let above := l.dropLast
  let goneAbove := match old.get? above with
    | some d => isGone new above d
    | none => false
  if !isGone new l e || goneAbove then []
  else if e.isDirectory then [.removeDirectory l]
  else [.removeFile l]

/-- How an entry comes about where another one stood, or none.  The content of a new file is written
when the file has its permission bits. -/
def arrival (old : Option Entry) (l : Location) (new : Entry) : List Change :=
  match old, new with
  | some (.directory m), .directory mode => if m = mode then [] else [.setMode l mode]
  | some (.file content m), .file content' mode =>
    (if m = mode then [] else [.setMode l mode])
      ++ if content = content' then [] else [.write l content']
  | _, .directory mode => [.makeDirectory l, .setMode l mode]
  | _, .file content mode => [.write l [], .setMode l mode, .write l content]

/-- The changes that lead from one tree to another. -/
def changes (old new : Files) : List Change :=
  old.entries.flatMap (fun e => removal old new e.1 e.2)
    ++ (new.entries.mergeSort fun a b => a.1.length ≤ b.1.length).flatMap
      fun e => arrival (old.get? e.1) e.1 e.2

end EdgeNode.Files
