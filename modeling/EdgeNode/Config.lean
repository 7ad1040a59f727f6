import EdgeNode.Error
import EdgeNode.Keyed
import EdgeNode.Text.Blank
import EdgeNode.Text.Split
/-!
# Node configuration

A configuration is a text of `key = value` lines.  Empty lines and lines that start with `#` or
`;` say nothing, and of two lines with one key the later counts.
-/

namespace EdgeNode

/-- A parsed configuration. -/
structure Config where
  /-- Where the text came from. -/
  path : String
  /-- The values by key. -/
  options : Keyed String
deriving DecidableEq, Repr

namespace Config

/-- The option that holds the node's role. -/
def roleOption : String := "machine_room.role"

/-- The option that holds the node's site. -/
def siteOption : String := "machine_room.site"

/-- The option that holds the backend broker's URL. -/
def sourceHostOption : String := "machine_room.source.host"

/-- The option that holds the backend user's token. -/
def sourceTokenOption : String := "machine_room.source.nats_jwt"

/-- The option that sends the node back to provisioning. -/
def provisionOption : String := "plugin.choria.server.provision"

/-- The option that holds the node's identity. -/
def identityOption : String := "identity"

/-- What one trimmed line says. -/
inductive Line where
  /-- Nothing. -/
  | idle
  /-- The value of a key. -/
  | setting (key value : String)
  /-- It has no separator. -/
  | noSeparator
  /-- The key is blank. -/
  | emptyKey
deriving DecidableEq, Repr

/-- Reads a trimmed line.  The first `=` separates key and value. -/
def Line.read (line : List Char) : Line :=
  match line with
  | [] => .idle
  | '#' :: _ => .idle
  | ';' :: _ => .idle
  | _ =>
    if line.contains '=' then
      let key := Text.trim (line.takeWhile (· != '='))
      let value := Text.trim ((line.dropWhile (· != '=')).drop 1)
      if key.isEmpty then .emptyKey else .setting (String.ofList key) (String.ofList value)
    else .noSeparator

/-- The options of trimmed lines, the first of which has the number `n`. -/
def readLines (path : String) (n : Nat) (options : Keyed String) :
    List (List Char) → Except Error (Keyed String)
  | [] => .ok options
  | line :: rest =>
    match Line.read line with
    | .idle => readLines path (n + 1) options rest
    | .setting key value => readLines path (n + 1) (options.insert key value) rest
    | .noSeparator =>
      .error (.config (path ++ ":" ++ toString n ++ ": expected 'key = value', got '"
        ++ String.ofList line ++ "'"))
    | .emptyKey => .error (.config (path ++ ":" ++ toString n ++ ": empty key"))

/-- Reads a configuration text. -/
def parse (path content : String) : Except Error Config :=
  match readLines path 1 [] ((Text.lines content).map Text.trim) with
  | .ok options => .ok { path, options }
  | .error e => .error e

/-- One `key = value` line per option, in key order. -/
def render (options : Keyed String) : String :=
  String.join (options.map fun e => e.1 ++ " = " ++ e.2 ++ "\n")

/-- The value of a key, or the given one where the key is not set. -/
def option (c : Config) (key dflt : String) : String :=
  (c.options.get? key).getD dflt

/-- Whether a key is set, be it to nothing. -/
def hasOption (c : Config) (key : String) : Bool :=
  c.options.has key

/-- The truth value a text stands for, in any case of its letters. -/
def truth? (value : String) : Option Bool :=
  let v := Text.lowered value
  if ["1", "true", "yes", "y", "on"].contains v then some true
  else if ["0", "false", "no", "n", "off"].contains v then some false
  else none

/-- The truth value of a key; none where the key is not set. -/
def boolOption (c : Config) (key : String) : Option (Except Error Bool) :=
  (c.options.get? key).map fun value =>
    match truth? value with
    | some b => .ok b
    | none => .error (.config ("option " ++ key ++ " has non-boolean value '" ++ value ++ "'"))

/-- The identity option, or the host name where it is absent or empty. -/
def identity (c : Config) (hostName : String) : String :=
  match c.options.get? identityOption with
  | some name => if name.isEmpty then hostName else name
  | none => hostName

end Config

end EdgeNode
