import EdgeNode.Framework
import EdgeNode.Keys
import EdgeNode.Options
import EdgeNode.RuntimePaths
import EdgeNode.Server
/-!
# Mode selection

Whether a node is provisioned follows from the files that are there and from one option.  The
selected mode determines the settings of the agent server and what is done before it starts.
-/

namespace EdgeNode

/-- The files that a provisioned node has. -/
def RuntimePaths.requiredFiles (p : RuntimePaths) : List String :=
  [p.configFile, p.serverTokenFile, p.serverSeedFile, p.userSeedFile]

namespace Mode

/-- The mode for a list of required files and the provision option. -/
def select (f : Files) (required : List String) (flag : Option Bool) : Mode :=
  if required.all f.has ∧ flag ≠ some true then .operational else .provisioning

/-- The provision option; an invalid value counts as absent. -/
def provisionFlag (c : Config) : Option Bool :=
  (c.boolOption Config.provisionOption).bind Except.toOption

/-- The mode of a node; without a configuration it is to be provisioned. -/
def selectFor (f : Files) (p : RuntimePaths) : Option Config → Mode
  | none => .provisioning
  | some c => select f p.requiredFiles (provisionFlag c)

end Mode

/-- The settings of a provisioned node. -/
def operationalSettings (p : RuntimePaths) (o : Options) : Except Error OperationalSettings :=
  o.signingPublicKey.map fun key =>
    { seedFile := p.serverSeedFile
      tokenFile := p.serverTokenFile
      machinesDirectory := p.machinesDirectory
      signerKey := Encoding.Hex.encode key
      statusFile := p.statusFile
      submissionSpool := p.submissionDirectory
      submissionSpoolSize := p.submissionSpoolSize
      registrationInterval := EdgeNode.registrationInterval
      registrationSplay := true
      registration := ["inventory_content"]
      registrationTarget := EdgeNode.registrationTarget
      collectives := [defaultCollective]
      mainCollective := defaultCollective
      factsFile := p.factsFile }

/-- The settings of a node that waits to be provisioned.  Its token must be there; the user seed is
made if it is not. -/
def provisioningSettings (f : Files) (e : Entropy) (p : RuntimePaths) :
    Except Error ProvisioningSettings × Files × Entropy :=
  if f.has p.provisioningTokenFile then
    match f.ensureUserSeed e p.userSeedFile with
    | (.error err, f, e) => (.error err, f, e)
    | (.ok _, f, e) =>
      (.ok { tokenFile := p.provisioningTokenFile, factsFile := p.factsFile }, f, e)
  else
    (.error (.missingCredential
      ("provisioning token not found at " ++ p.provisioningTokenFile)), f, e)

/-- The configuration of the agent server in a mode. -/
def ServerConfig.materialize (f : Files) (e : Entropy) (p : RuntimePaths) (o : Options)
    (hostName : String) (mode : Mode) (c : Option Config) :
    Except Error ServerConfig × Files × Entropy :=
  let identity := match c with
    | some c => c.identity hostName
    | none => hostName
  match mode with
  | .provisioning =>
    match provisioningSettings f e p with
    | (.error err, f, e) => (.error err, f, e)
    | (.ok s, f, e) =>
      (.ok { configFile := p.configFile, identity, settings := .provisioning s }, f, e)
  | .operational =>
    match operationalSettings p o with
    | .error err => (.error err, f, e)
    | .ok s => (.ok { configFile := p.configFile, identity, settings := .operational s }, f, e)

/-- Writes the broker user's credentials if the configuration holds a token; answers whether it
did. -/
def saveCredentials (f : Files) (c : Config) (p : RuntimePaths) : Except Error Bool × Files :=
  let token := c.option Config.sourceTokenOption ""
  if token.isEmpty then (.ok false, f)
  else
    match f.readUserSeed p.userSeedFile with
    | .error e => (.error e.toError, f)
    | .ok seed =>
      match f.writeKeyFile p.credentialsFile (Bytes.ofText (formatCredentials token seed))
          privateFileMode with
      | .error e => (.error e.toError, f)
      | .ok f => (.ok true, f)

/-- What was done for a mode before the agent server starts. -/
structure PostActions where
  /-- The provisioning target was configured. -/
  targetConfigured : Bool := false
  /-- The directory of autonomous agents is there. -/
  machinesDirectoryReady : Bool := false
  /-- The broker user's credentials were written. -/
  credentialsWritten : Bool := false
deriving DecidableEq, Repr

/-- What was done, as a document. -/
def PostActions.toJson (a : PostActions) : Json :=
  .ofMembers
    [("provisioning_target_configured", a.targetConfigured),
     ("machines_directory_ready", a.machinesDirectoryReady),
     ("credentials_written", a.credentialsWritten)]

/-- Prepares a provisioned node: the directory of autonomous agents, for its owner only, and the
credentials.  What fails is left out. -/
def prepareOperational (f : Files) (s : OperationalSettings) (p : RuntimePaths)
    (c : Option Config) : PostActions × Files :=
  let (ready, f) := match f.createDirectories s.machinesDirectory with
    | (f, .ok ()) => (true, (f.setMode s.machinesDirectory 0o700).toOption.getD f)
    | (f, .error _) => (false, f)
  match c with
  | none => ({ machinesDirectoryReady := ready }, f)
  | some c =>
    match saveCredentials f c p with
    | (.ok written, f) => ({ machinesDirectoryReady := ready, credentialsWritten := written }, f)
    | (.error _, f) => ({ machinesDirectoryReady := ready }, f)

/-- Does what the mode asks for before the agent server starts.  Failures are noted and never stop
the node. -/
def applyPostActions (f : Files) (target : ProvisioningTarget) (server : ServerConfig)
    (p : RuntimePaths) (c : Option Config) : PostActions × Files :=
  match server.settings with
  | .provisioning _ =>
    ({ targetConfigured := (target.configure f server).toOption.isSome }, f)
  | .operational s => prepareOperational f s p c

end EdgeNode
