import EdgeNode.Files
import EdgeNode.RuntimePaths
/-!
# Reset

Removes everything that a node made or was issued, but for the token it is provisioned with.
-/

namespace EdgeNode

/-- What a reset removes, in order. -/
def resetTargets (p : RuntimePaths) : List String :=
  [p.storageDirectory, p.machinesDirectory, p.factsFile, p.serverTokenFile, p.serverSeedFile,
   p.caFile, p.certFile, p.keyFile, p.userSeedFile, p.credentialsFile, p.statusFile, p.configFile]

/-- What a reset did. -/
structure ResetReport where
  /-- What was there and was removed. -/
  removed : List String := []
  /-- What was not there. -/
  missing : List String := []
  /-- What could not be removed, and why. -/
  failed : List (String × FileError) := []
deriving DecidableEq, Repr

namespace ResetReport

/-- Whether everything that was there was removed. -/
def isClean (r : ResetReport) : Bool :=
  r.failed.isEmpty

/-- The report as a document. -/
def toJson (r : ResetReport) : Json :=
  .ofMembers
    [("removed", .texts r.removed),
     ("missing", .texts r.missing),
     ("failed", .ofList (fun e => .texts [e.1, e.2.message]) r.failed),
     ("clean", r.isClean)]

/-- The report with the result of one removal. -/
def add (r : ResetReport) (path : String) : Except FileError Unit → ResetReport
  | .ok () => { r with removed := r.removed ++ [path] }
  | .error e =>
    if e = .notFound then { r with missing := r.missing ++ [path] }
    else { r with failed := r.failed ++ [(path, e)] }

end ResetReport

/-- Removes paths in turn. -/
def removeAll (f : Files) (r : ResetReport) : List String → ResetReport × Files
  | [] => (r, f)
  | path :: rest =>
    match f.remove path with
    | (f, result) => removeAll f (r.add path result) rest

/-- Removes everything that a node made or was issued. -/
def reset (f : Files) (p : RuntimePaths) : ResetReport × Files :=
  removeAll f {} (resetTargets p)

end EdgeNode
