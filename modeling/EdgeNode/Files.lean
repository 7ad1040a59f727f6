import EdgeNode.Bytes
import EdgeNode.Error
import EdgeNode.Path
/-!
# Files

A tree of directories and files, each with permission bits, listed by location.  A location is the
list of names that leads from the root; a path text is resolved to a location name by name, so
that a path through something that is absent or no directory is refused.  New files and
directories lose the permission to write for group and others.

The tree has no links: no name stands for another location, so that two dots lead back to the
directory that a name was looked up in, and what is written or removed is what stands at the
location itself.  Permission bits are kept and changed but refuse nothing, as for a user who may
read and write everything; nor is the disk ever full.
-/

namespace EdgeNode

/-- What stands at a location. -/
inductive Entry where
  /-- A file with its content. -/
  | file (content : Bytes) (mode : Nat)
  /-- A directory. -/
  | directory (mode : Nat)
deriving DecidableEq, Repr

namespace Entry

/-- Whether this is a directory. -/
def isDirectory : Entry → Bool
  | .directory _ => true
  | .file .. => false

/-- The permission bits. -/
def mode : Entry → Nat
  | .file _ m => m
  | .directory m => m

/-- The entry with other permission bits. -/
def withMode (mode : Nat) : Entry → Entry
  | .file content _ => .file content mode
  | .directory _ => .directory mode

end Entry

/-- The names that lead from the root to a file or directory. -/
abbrev Location := List String

/-- A tree of files, and the directory that relative paths start from. -/
structure Files where
  /-- The current directory. -/
  current : Location := []
  /-- What stands where; the root is always a directory. -/
  entries : List (Location × Entry) := []
deriving DecidableEq, Repr

namespace Files

/-- The permission bits of a new file. -/
def newFileMode : Nat := 0o644

/-- The permission bits of a new directory. -/
def newDirectoryMode : Nat := 0o755

/-- The permission bits that a file keeps when it is created with the given ones. -/
def masked (mode : Nat) : Nat :=
  mode - (mode &&& 0o022)

/-- What stands at a location. -/
def get? (f : Files) (l : Location) : Option Entry :=
  if l.isEmpty then some (.directory newDirectoryMode)
  else (f.entries.find? fun e => e.1 == l).map Prod.snd

/-- The tree with an entry at a location, in place of what was there. -/
def put (f : Files) (l : Location) (e : Entry) : Files :=
  { f with entries := (l, e) :: f.entries.filter fun old => old.1 != l }

/-- The tree without a location and all that lies below it. -/
def cut (f : Files) (l : Location) : Files :=
  { f with entries := f.entries.filter fun e => !l.isPrefixOf e.1 }

/-- Whether a name is longer than a directory takes. -/
def tooLong (name : String) : Bool :=
  name.utf8ByteSize > 255

/-- Follows names from a location.  Every name but the last must be found, and behind it a
directory. -/
def walk (f : Files) (here : Location) : List String → Except FileError Location
  | [] => .ok here
  | name :: rest =>
    match f.get? here with
    | none => .error .notFound
    | some (.file ..) => .error .notDirectory
    | some (.directory _) =>
      if name.isEmpty || name == "." then walk f here rest
      else if name == ".." then walk f here.dropLast rest
      else if tooLong name then .error (.system 36)
      else walk f (here ++ [name]) rest

/-- Where the names of a path start from, and the names.  An empty path leads nowhere. -/
def namesOf (f : Files) (path : String) : Except FileError (Location × List String) :=
  if path.isEmpty then .error .notFound
  else if path.toList.contains (Char.ofNat 0) then .error .zeroByte
  else if path.utf8ByteSize ≥ 4096 then .error (.system 36)
  else
    match Text.pieces '/' path with
    | "" :: names => .ok ([], names)
    | names => .ok (f.current, names)

/-- The location that a path leads to; nothing need be there. -/
def locate (f : Files) (path : String) : Except FileError Location :=
  match f.namesOf path with
  | .error e => .error e
  | .ok (start, names) => walk f start names

/-- What stands at the end of a path. -/
def stat (f : Files) (path : String) : Except FileError (Location × Entry) :=
  match f.locate path with
  | .error e => .error e
  | .ok l =>
    match f.get? l with
    | some e => .ok (l, e)
    | none => .error .notFound

/-- Whether anything stands at the end of a path. -/
def has (f : Files) (path : String) : Bool :=
  (f.stat path).toOption.isSome

/-- Whether a directory stands at the end of a path. -/
def isDirectory (f : Files) (path : String) : Bool :=
  match f.stat path with
  | .ok (_, e) => e.isDirectory
  | .error _ => false

/-- The content of a file. -/
def read (f : Files) (path : String) : Except FileError Bytes :=
  match f.stat path with
  | .error e => .error e
  | .ok (_, .directory _) => .error .isDirectory
  | .ok (_, .file content _) => .ok content

/-- The content of a file that holds text. -/
def readText (f : Files) (path : String) : Except FileError String :=
  match f.read path with
  | .error e => .error e
  | .ok content =>
    match Bytes.text? content with
    | some s => .ok s
    | none => .error .notText

/-- The names without those that are empty. -/
def properNames (names : List String) : List String :=
  names.filter fun name => !name.isEmpty

/-- Whether names can only name a directory: a slash stands behind the last proper one, which is
not a dot or two. -/
def nameDirectory (names : List String) : Bool :=
  names.getLast? == some "" &&
    match (properNames names).getLast? with
    | some name => name != "." && name != ".."
    | none => false

/-- The location of the directory that the last of some names is looked for in. -/
def locateParent (f : Files) (start : Location) (names : List String) :
    Except FileError Location :=
  match walk f start (properNames names).dropLast with
  | .error e => .error e
  | .ok l =>
    match f.get? l with
    | some (.directory _) => .ok l
    | some (.file ..) => .error .notDirectory
    | none => .error .notFound

/-- Where a file is written that need not be there yet: its location and, if it is there, its
content and permission bits.  A name for a directory cannot become a file, whatever it leads to. -/
def openForWriting (f : Files) (path : String) :
    Except FileError (Location × Option (Bytes × Nat)) :=
  match f.namesOf path with
  | .error e => .error e
  | .ok (start, names) =>
    if nameDirectory names then
      match f.locateParent start names with
      | .error e => .error e
      | .ok _ => .error .isDirectory
    else
      match walk f start names with
      | .error e => .error e
      | .ok l =>
        match f.get? l with
        | some (.directory _) => .error .isDirectory
        | some (.file content mode) => .ok (l, some (content, mode))
        | none =>
          match f.get? l.dropLast with
          | some (.directory _) => .ok (l, none)
          | some (.file ..) => .error .notDirectory
          | none => .error .notFound

/-- Writes a file: all of its content is replaced, and its permission bits stay if it was there. -/
def write (f : Files) (path : String) (content : Bytes) : Except FileError Files :=
  match f.openForWriting path with
  | .error e => .error e
  | .ok (l, old) =>
    .ok (f.put l (.file content ((old.map Prod.snd).getD newFileMode)))

/-- Writes a file and gives it exactly the permission bits. -/
def writeWithMode (f : Files) (path : String) (content : Bytes) (mode : Nat) :
    Except FileError Files :=
  match f.openForWriting path with
  | .error e => .error e
  | .ok (l, _) => .ok (f.put l (.file content (mode % 4096)))

/-- Makes sure that a file is there to append to; a new one is empty. -/
def openForAppending (f : Files) (path : String) (mode : Nat) : Except FileError Files :=
  match f.openForWriting path with
  | .error e => .error e
  | .ok (_, some _) => .ok f
  | .ok (l, none) => .ok (f.put l (.file [] (masked mode)))

/-- Creates one directory; slashes behind its name make no difference. -/
def createDirectory (f : Files) (path : String) : Except FileError Files :=
  match f.namesOf path with
  | .error e => .error e
  | .ok (start, names) =>
    match walk f start (properNames names) with
    | .error e => .error e
    | .ok l =>
      match f.get? l with
      | some _ => .error .alreadyExists
      | none =>
        match f.get? l.dropLast with
        | some (.directory _) => .ok (f.put l (.directory newDirectoryMode))
        | some (.file ..) => .error .notDirectory
        | none => .error .notFound

/-- Creates one directory, content if one is there. -/
def ensureDirectory (f : Files) (path : String) : Except FileError Files :=
  match f.createDirectory path with
  | .ok f => .ok f
  | .error e => if f.isDirectory path then .ok f else .error e

/-- Creates a directory and those above it; `fuel` bounds their number. -/
def createDirectoriesUpTo : Nat → Files → String → Files × Except FileError Unit
  | 0, f, _ => (f, .error .notFound)
  | fuel + 1, f, path =>
    if path.isEmpty then (f, .ok ())
    else
      match f.createDirectory path with
      | .ok f => (f, .ok ())
      | .error e =>
        if e = .notFound then
          match Path.parent? path with
          | none => (f, .error e)
          | some parent =>
            match createDirectoriesUpTo fuel f parent with
            | (f, .error e) => (f, .error e)
            | (f, .ok ()) =>
              match f.ensureDirectory path with
              | .ok f => (f, .ok ())
              | .error e => (f, .error e)
        else if f.isDirectory path then (f, .ok ())
        else (f, .error e)

/-- Creates a directory and those above it.  Directories made before a failure stay. -/
def createDirectories (f : Files) (path : String) : Files × Except FileError Unit :=
  createDirectoriesUpTo (path.length + 1) f path

/-- Makes sure that the directory of a path is there. -/
def createParent (f : Files) (path : String) : Except Error Unit × Files :=
  match Path.parent? path with
  | none => (.ok (), f)
  | some dir =>
    match f.createDirectories dir with
    | (f, .ok ()) => (.ok (), f)
    | (f, .error e) => (.error (.io dir e), f)

/-- Changes permission bits. -/
def setMode (f : Files) (path : String) (mode : Nat) : Except FileError Files :=
  match f.stat path with
  | .error e => .error e
  | .ok (l, e) => .ok (f.put l (e.withMode (mode % 4096)))

/-- Removes a file. -/
def removeFile (f : Files) (path : String) : Except FileError Files :=
  match f.stat path with
  | .error e => .error e
  | .ok (_, .directory _) => .error .isDirectory
  | .ok (l, .file ..) => .ok (f.cut l)

/-- The tree without what lies below a location. -/
def cutBelow (f : Files) (l : Location) : Files :=
  { f with entries := f.entries.filter fun e => !(l.isPrefixOf e.1 && e.1 != l) }

/-- Takes away the directory at the end of a path, at a location below which nothing is left.  Its
last name is looked for anew; what the path no longer leads to counts as taken away.  A name that is
a dot or two, or the root, cannot be taken away. -/
def removeEmptyDirectory (f : Files) (path : String) (l : Location) : Except FileError Files :=
  match f.namesOf path with
  | .error e => .error e
  | .ok (start, names) =>
    match f.locateParent start names with
    | .error e => if e = .notFound then .ok f else .error e
    | .ok _ =>
      match (properNames names).getLast? with
      | none => .error (.system 16)
      | some name =>
        if name = "." then .error .invalidArgument
        else if name = ".." then .error (.system 39)
        else .ok (f.cut l)

/-- Removes a directory with all that lies below it. -/
def removeDirectory (f : Files) (path : String) : Files × Except FileError Unit :=
  match f.stat path with
  | .error e => (f, .error e)
  | .ok (_, .file ..) => (f, .error .notDirectory)
  | .ok (l, .directory _) =>
    let f := f.cutBelow l
    match f.removeEmptyDirectory path l with
    | .ok f => (f, .ok ())
    | .error e => (f, .error e)

/-- Removes whatever stands at the end of a path. -/
def remove (f : Files) (path : String) : Files × Except FileError Unit :=
  if f.isDirectory path then f.removeDirectory path
  else
    match f.removeFile path with
    | .ok f => (f, .ok ())
    | .error e => (f, .error e)

end Files

end EdgeNode
