import EdgeNode.Logging
import EdgeNode.Node
/-!
# The command line

The program runs a node, writes its facts or resets it.  Some options may stand before the command
as well as behind it, and behind it they count more; two of them can be set in the environment,
where they count least.
-/

namespace EdgeNode.CommandLine

/-- The name of the program. -/
def programName : String := "machine-room"

/-- The version of the program. -/
def programVersion : String := "0.1.0"

/-- What the program is to do. -/
inductive Command where
  /-- Run a node to its end. -/
  | run
  /-- Write the facts once. -/
  | facts
  /-- Reset the node. -/
  | reset
deriving DecidableEq, Repr

/-- The command with a name. -/
def Command.ofName : String → Option Command
  | "run" => some .run
  | "facts" => some .facts
  | "reset" => some .reset
  | _ => none

/-- What an option takes. -/
inductive OptionKind where
  /-- Nothing. -/
  | flag
  /-- A text. -/
  | text
  /-- A path, which is not empty. -/
  | path
deriving DecidableEq, Repr

/-- The options that may stand before and behind the command. -/
def sharedOptions : List (String × OptionKind) :=
  [("debug", .flag), ("log-level", .text), ("log-file", .path), ("signing-key", .text),
   ("state-directory", .path)]

/-- The options that may stand behind a command. -/
def optionsOf : Command → List (String × OptionKind)
  | .reset => sharedOptions ++ [("config", .path), ("force", .flag)]
  | _ => sharedOptions ++ [("config", .path)]

/-- The variable that holds the signing key. -/
def signingKeyVariable : String := "MACHINE_ROOM_SIGNING_KEY"

/-- The variable that holds the state directory. -/
def stateDirectoryVariable : String := "MACHINE_ROOM_STATE_DIRECTORY"

/-! ### Reading arguments -/

/-- Where the reading of the arguments stands, or how it ended. -/
inductive Reading where
  /-- Before or behind the command, with the options given there and those given before. -/
  | more (command : Option Command) (before here : Keyed String)
  /-- The version is asked for. -/
  | version
  /-- Help is asked for. -/
  | help
  /-- The arguments make no sense. -/
  | refused
deriving DecidableEq, Repr

/-- The name of an option and the value that is attached to it. -/
def splitOption (arg : List Char) : String × Option String :=
  if arg.contains '=' then
    (String.ofList (arg.takeWhile (· != '=')),
      some (String.ofList ((arg.dropWhile (· != '=')).drop 1)))
  else (String.ofList arg, none)

/-- Whether an argument can be the value of the option before it. -/
def isValue : List Char → Bool
  | '-' :: _ :: _ => false
  | _ => true

/-- Whether an option takes a value. -/
def OptionKind.accepts (k : OptionKind) (value : String) : Bool :=
  k != .path || !value.isEmpty

/-- Whether help can be had on the commands that are named: on all of them together, on one, or on
help itself. -/
def hasHelp : List String → Bool
  | [] => true
  | [name] => name == "help" || (Command.ofName name).isSome
  | _ => false

/-- Reads the arguments that stand before or behind a command. -/
def readArguments (command : Option Command) (before here : Keyed String) :
    List (List Char) → Reading
  | [] => .more command before here
  | ['-', '-'] :: rest =>
    if rest.isEmpty ∧ command.isSome then .more command before here else .refused
  | ('-' :: '-' :: option) :: rest =>
    match splitOption option with
    | (name, value) =>
      if name = "help" ∧ value.isNone then .help
      else if name = "version" ∧ value.isNone ∧ command.isNone then .version
      else
        let known := match command with
          | none => sharedOptions
          | some c => optionsOf c
        match known.lookup name with
        | none => .refused
        | some kind =>
          if Keyed.has here name then .refused
          else
            match kind, value, rest with
            | .flag, none, rest => readArguments command before (Keyed.insert here name "") rest
            | .flag, some _, _ => .refused
            | kind, some v, rest =>
              if kind.accepts v then readArguments command before (Keyed.insert here name v) rest
              else .refused
            | _, none, [] => .refused
            | kind, none, v :: rest =>
              if isValue v && kind.accepts (String.ofList v) then
                readArguments command before (Keyed.insert here name (String.ofList v)) rest
              else .refused
  | ('-' :: 'V' :: _) :: _ => if command.isNone then .version else .refused
  | ('-' :: 'h' :: _) :: _ => .help
  | arg :: rest =>
    if command.isSome then .refused
    else if arg = "help".toList then
      if hasHelp (rest.map String.ofList) then .help else .refused
    else
      match Command.ofName (String.ofList arg) with
      | some c => readArguments (some c) here [] rest
      | none => .refused
termination_by args => args.length

/-- What the arguments ask for. -/
structure Invocation where
  /-- What is to be done. -/
  command : Command
  /-- The configuration file. -/
  configFile : String
  /-- Whether a reset may go ahead. -/
  force : Bool := false
  /-- Whether everything is logged. -/
  debug : Bool := false
  /-- What is logged. -/
  logLevel : String := Logging.defaultLevel
  /-- Where log lines go. -/
  logFile : Option String := none
  /-- The signing key. -/
  signingKey : Option String := none
  /-- The state directory. -/
  stateDirectory : Option String := none
deriving DecidableEq, Repr

/-- What the arguments and the environment ask for. -/
inductive Request where
  /-- Something to be done. -/
  | invoke (i : Invocation)
  /-- The version. -/
  | version
  /-- Help. -/
  | help
  /-- Nothing that makes sense. -/
  | refused
deriving DecidableEq, Repr

/-- Completes what was read with the environment.  An empty state directory in the environment
makes no sense, unless it is never looked at. -/
def complete (environment : Keyed String) (command : Command) (before here : Keyed String) :
    Request :=
  let given (name : String) : Option String :=
    match Keyed.get? here name with
    | some v => some v
    | none => Keyed.get? before name
  let fromEnvironment (name variableName : String) : Option String :=
    match given name with
    | some v => some v
    | none => Keyed.get? environment variableName
  let unread := Keyed.has before "state-directory" && Keyed.has here "state-directory"
  if Keyed.get? environment stateDirectoryVariable = some "" ∧ ¬ unread then .refused
  else
    match Keyed.get? here "config" with
    | none => .refused
    | some configFile =>
      .invoke
        { command, configFile
          force := Keyed.has here "force"
          debug := (given "debug").isSome
          logLevel := (given "log-level").getD Logging.defaultLevel
          logFile := given "log-file"
          signingKey := fromEnvironment "signing-key" signingKeyVariable
          stateDirectory := fromEnvironment "state-directory" stateDirectoryVariable }

/-- Reads the arguments and the environment. -/
def Request.read (args : List String) (environment : Keyed String) : Request :=
  match readArguments none [] [] (args.map String.toList) with
  | .version => .version
  | .help => .help
  | .refused => .refused
  | .more none _ _ => .refused
  | .more (some command) before here => complete environment command before here

/-! ### Doing it -/

/-- How the program ends. -/
structure Ending where
  /-- The exit status. -/
  status : Nat := 0
  /-- What is printed. -/
  output : String := ""
  /-- Why it failed. -/
  error : Option String := none
deriving DecidableEq, Repr

/-- The end of a program that failed. -/
def Ending.failure (message : String) : Ending where
  status := 1
  error := some message

/-- The end of a program whose arguments make no sense. -/
def Ending.usage : Ending where
  status := 2

/-- The permission bits that a log file is created with. -/
def logFileMode : Nat := 0o660

/-- Opens the log. -/
def openLog (f : Files) (file : Option String) : Except LoggingError Files :=
  match Logging.Output.ofOption file with
  | .file path =>
    match f.openForAppending path logFileMode with
    | .ok f => .ok f
    | .error e => .error (.logFile path e)
  | _ => .ok f

/-- The node that the program works on. -/
def Invocation.node (i : Invocation) (p : Pool) : Except String Node × Pool :=
  match Node.create p { signingKey := i.signingKey.getD "", version := programVersion }
      i.configFile i.stateDirectory with
  | (.ok n, p) => (.ok n, p)
  | (.error e, p) => (.error ("invalid options: " ++ e.message), p)

/-- The paths that the program may work on; `f` holds the configuration file if it was read. -/
def Invocation.workPaths (i : Invocation) (f : Files) : List String :=
  i.logFile.toList ++ Node.workPaths f (Node.pathsFor f i.configFile i.stateDirectory)

/-- What a finished reset comes to. -/
def afterReset (name : String) (r : ResetReport) : Ending :=
  if r.isClean then
    { output := "Reset " ++ name ++ ": removed " ++ toString r.removed.length ++ " paths\n" }
  else .failure ("could not remove " ++ toString r.failed.length ++ " paths")

/-- What the end of a node's run comes to. -/
def afterRun : Except Error Unit → Ending
  | .ok () => {}
  | .error e => .failure ("machine room failed: " ++ e.message)

/-- Opens the log and makes the node that something is asked of. -/
def Invocation.begin (i : Invocation) (p : Pool) : Except String Node × Pool :=
  match openLog p.host.files i.logFile with
  | .error e => (.error e.message, p)
  | .ok files =>
    let p := { p with host := { p.host with files } }
    if i.command = .reset ∧ ¬ i.force then (.error "refusing to reset without --force", p)
    else i.node p

/-- Does what was asked for.  There is no end to a node that waits for ever. -/
def Invocation.execute (i : Invocation) (p : Pool) : Option Ending × Pool :=
  match i.begin p with
  | (.error message, p) => (some (.failure message), p)
  | (.ok n, p) =>
    match i.command with
    | .run =>
      match n.run {} p with
      | (result, _, p) => (result.map afterRun, p)
    | .facts =>
      match n.saveFacts p.host with
      | (.ok (), _, host) => (some {}, { p with host })
      | (.error e, _, host) => (some (.failure e.message), { p with host })
    | .reset =>
      match n.reset p.host.files with
      | (report, files) =>
        (some (afterReset n.options.name report), { p with host := { p.host with files } })

/-- What is printed for help. -/
def helpText : String :=
  "Usage: " ++ programName ++ " [OPTIONS] <COMMAND>\n\nCommands:\n"
    ++ "  run    Run a node until it is interrupted\n"
    ++ "  reset  Remove everything a node made or was issued\n\nOptions:\n"
    ++ "      --debug\n      --log-level <LOG_LEVEL>\n      --log-file <LOG_FILE>\n"
    ++ "      --signing-key <SIGNING_KEY>\n      --state-directory <STATE_DIRECTORY>\n"
    ++ "  -h, --help\n  -V, --version\n"

/-- Runs the program on its arguments and environment. -/
def perform (args : List String) (environment : Keyed String) (p : Pool) : Option Ending × Pool :=
  match Request.read args environment with
  | .refused => (some .usage, p)
  | .version => (some { output := programName ++ " " ++ programVersion ++ "\n" }, p)
  | .help => (some { output := helpText }, p)
  | .invoke i => i.execute p

end EdgeNode.CommandLine
