import EdgeNode.CommandLine
import EdgeNode.Facts.SystemTexts
import EdgeNode.Files.Change
import Std.Time.DateTime.Timestamp
/-!
# The program

What the program decides is decided elsewhere.  Here the disk, the clocks and the texts of the
system are read, a node's changes to its files are made, and its output is printed.
-/

namespace EdgeNode

/-! ### The disk -/

/-- Looks at a location of the disk. -/
def look (l : Location) : IO Files.Sight := do
  match ← EIO.toBaseIO (IO.FS.readBinFile (Files.locationText l)) with
  | .ok content => return .file content.data.toList
  | .error (.inappropriateType _ 21 _) => return .directory
  | .error _ => return .nothing

/-- Looks at all that paths lead through. -/
def lookAt (current : Location) (paths : List String) : IO Files :=
  (paths.flatMap (Files.passedBy current)).eraseDups.foldlM
    (fun f l => return f.see l (← look l)) { current }

/-- Looks at all that the program may work on. -/
def CommandLine.Invocation.look (i : Invocation) (current : Location) : IO Files := do
  let f ← lookAt current (i.workPaths { current })
  lookAt current (i.workPaths f)

/-- Three permission bits. -/
def accessRight (bits : Nat) : IO.AccessRight where
  read := bits.testBit 2
  write := bits.testBit 1
  execution := bits.testBit 0

/-- Makes a change to the disk. -/
def Files.Change.make : Change → IO Unit
  | .removeFile l => IO.FS.removeFile (locationText l)
  | .removeDirectory l => IO.FS.removeDirAll (locationText l)
  | .makeDirectory l => IO.FS.createDirAll (locationText l)
  | .write l content => IO.FS.writeBinFile (locationText l) ⟨content.toArray⟩
  | .setMode l mode =>
    IO.setAccessRights (locationText l)
      ⟨accessRight (mode / 64), accessRight (mode / 8), accessRight mode⟩

/-- Makes the changes to the disk that lead from one tree to another. -/
def settle (old new : Files) : IO Unit :=
  (Files.changes old new).forM Files.Change.make

/-! ### The machine -/

/-- The text of a file, if it can be read. -/
def textOf (path : String) : IO (Option String) := do
  return Except.toOption (← EIO.toBaseIO (IO.FS.readFile path))

/-- What the machine tells about itself. -/
def readings : IO Readings := do
  let devices := (← textOf Readings.devicesPath).getD ""
  let texts ← (Readings.systemTextPaths devices).filterMapM fun path =>
    return (← textOf path).map fun text => (path, text)
  return .ofTexts (.ofList texts)

/-- The pool with the clocks of the machine. -/
def onTime (p : Pool) : IO Pool := do
  let now ← Std.Time.Timestamp.now
  let wallClock := now.toNanosecondsSinceUnixEpoch.toInt.toNat
  let uptime ← IO.monoMsNow
  return { p with host := { p.host with wallClock := max p.host.wallClock wallClock, uptime } }

/-- A pool without tasks on this machine. -/
def newPool (files : Files) : IO Pool := do
  let readings ← readings
  let seed ← IO.getRandomBytes 64
  onTime
    { host :=
        { name := readings.hostName.getD "localhost"
          files
          entropy := { seed := seed.data.toList }
          readings } }

/-! ### Running a node -/

/-- The longest pause, in milliseconds, between two looks at the disk. -/
def longestPause : Nat := 1000

/-- Runs a node to its end; `disk` is what was last seen of the disk. -/
partial def drive (i : CommandLine.Invocation) (n : Node) (disk : Files) (p : Pool)
    (stage : Node.Run) : IO CommandLine.Ending := do
  match Pool.move (n.runStep {}) (← onTime p) stage with
  | .finished result p =>
    settle disk p.host.files
    return CommandLine.afterRun result
  | .moved stage p => drive i n disk p stage
  | .resting wake p =>
    settle disk p.host.files
    let pause := (wake.map (· - p.host.uptime)).getD longestPause
    IO.sleep (.ofNat (min pause longestPause))
    let files ← i.look disk.current
    drive i n files { p with host := { p.host with files, readings := ← readings } } stage

/-- Does what was asked for. -/
def CommandLine.Invocation.run (i : Invocation) : IO Ending := do
  let disk ← i.look (Files.ofAbsolute (toString (← IO.currentDir)))
  let p ← newPool disk
  if i.command = .run then
    match i.begin p with
    | (.error message, p) =>
      settle disk p.host.files
      return .failure message
    | (.ok n, p) =>
      let (stage, n, p) := n.startRun p
      drive i n disk p stage
  else
    let (ending, p) := i.execute p
    settle disk p.host.files
    return ending.getD {}

/-- The variables of the environment that count. -/
def environment : IO (Keyed String) := do
  let names := [CommandLine.signingKeyVariable, CommandLine.stateDirectoryVariable]
  let values ← names.filterMapM fun name => return (← IO.getEnv name).map fun value => (name, value)
  return .ofList values

end EdgeNode

open EdgeNode in
/-- Runs the program. -/
def main (args : List String) : IO UInt32 := do
  let environment ← environment
  let ending ← match CommandLine.Request.read args environment with
    | .invoke i => i.run
    | _ => pure ((CommandLine.perform args environment {}).1.getD {})
  IO.print ending.output
  match ending.error with
  | some message => IO.eprintln ("Error: " ++ message)
  | none => pure ()
  return .ofNat ending.status
