import EdgeNode.Text.Blank
/-!
# Logging settings

Which lines are logged and where they go.
-/

namespace EdgeNode.Logging

/-- The level that is used where none is chosen. -/
def defaultLevel : String := "warn"

/-- The lowest severity that is logged under a level; unknown levels log warnings. -/
def directive (level : String) (debug : Bool) : String :=
  if debug then "debug"
  else
    match Text.lowered level with
    | "debug" => "debug"
    | "info" => "info"
    | "error" => "error"
    | "fatal" => "error"
    | _ => "warn"

/-- Where log lines go. -/
inductive Output where
  /-- To standard error, for people. -/
  | stderr
  /-- To the end of a file, one JSON object a line. -/
  | file (path : String)
  /-- Nowhere. -/
  | discard
deriving DecidableEq, Repr

/-- The output that an optional file name selects. -/
def Output.ofOption : Option String → Output
  | none => .stderr
  | some path =>
    if Text.lowered path = "discard" then .discard
    else if path.isEmpty then .stderr
    else .file path

end EdgeNode.Logging
