import EdgeNode.Progress
import EdgeNode.Server
import EdgeNode.Text.Blank
/-!
# The agent framework

The framework finds brokers by address and builds the agent server; its provisioning target makes
the node known to the provisioner.  Both can be given a course that is laid down.
-/

namespace EdgeNode

/-- A framework whose course is laid down. -/
structure FrameworkScript where
  /-- Why no broker is found. -/
  connectorFault : String := ""
  /-- Why no agent server is built, if it is not. -/
  instanceFault : Option String := none
  /-- What becomes of the agent server. -/
  course : Course := .lasts
deriving DecidableEq, Repr

/-- The agent framework. -/
inductive Framework where
  /-- It finds every broker of the network. -/
  | network
  /-- Its course is laid down. -/
  | scripted (s : FrameworkScript)
deriving DecidableEq, Repr

/-- Looks up the broker at an address on behalf of a named connection. -/
def Framework.connector : Framework → String → String → Except Error Unit
  | .network, url, name =>
    if url.isEmpty then .error (.connectivity name "no broker url") else .ok ()
  | .scripted s, _, name => .error (.connectivity name s.connectorFault)

/-- Who makes the node known to the provisioner. -/
inductive ProvisioningTarget where
  /-- It reads the provisioning token. -/
  | token
  /-- Its answer is laid down. -/
  | scripted (answer : Except Error Unit)

/-- Makes the node known to the provisioner. -/
def ProvisioningTarget.configure (t : ProvisioningTarget) (f : Files) (c : ServerConfig) :
    Except Error Unit :=
  match t with
  | .scripted answer => answer
  | .token =>
    match c.settings with
    | .operational _ => .error (.config "provisioning target needs provisioning settings")
    | .provisioning s =>
      match f.readText s.tokenFile with
      | .error e => .error (.io s.tokenFile e)
      | .ok text =>
        if (Text.trimmed text).isEmpty then
          .error (.missingCredential "provisioning token is empty")
        else .ok ()

end EdgeNode
