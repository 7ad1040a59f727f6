import EdgeNode.Defaults
import EdgeNode.Encoding.Hex
import EdgeNode.Json.Value
import EdgeNode.Plugins
/-!
# Options

What the embedding application supplies: its name, the key that autonomous agents must be signed
with, and what goes into the facts.
-/

namespace EdgeNode

/-- The number of bytes of a signing key. -/
def signingKeyLength : Nat := 32

/-- A generator of further facts.  It is told how often it was asked, this time included, the
application's name and the configuration file. -/
structure FactsHook where
  /-- Tells two generators apart. -/
  id : Nat
  /-- The facts, or why there are none. -/
  answer : Nat → String → String → Except String Json

/-- The options of a node. -/
structure Options where
  /-- The application's name. -/
  name : String := "machine-room"
  /-- Whom to ask for help. -/
  contact : String := ""
  /-- A line of help. -/
  help : String := "Machine Room edge node"
  /-- The application's version. -/
  version : String := "development"
  /-- The public key, in hexadecimal digits, that autonomous agents must be signed with. -/
  signingKey : String := ""
  /-- The time between two writes of the facts. -/
  factsRefreshInterval : Duration := defaultFactsRefresh
  /-- Leaves out every section about the host. -/
  noStandardFacts : Bool := false
  /-- Leaves out the memory section. -/
  noMemoryFacts : Bool := false
  /-- Leaves out the swap section. -/
  noSwapFacts : Bool := false
  /-- Leaves out the processor section. -/
  noCpuFacts : Bool := false
  /-- Leaves out the disk section. -/
  noDiskFacts : Bool := false
  /-- Leaves out the host section. -/
  noHostFacts : Bool := false
  /-- Leaves out the network section. -/
  noNetworkFacts : Bool := false
  /-- The generator of further facts. -/
  additionalFacts : Option FactsHook := none
  /-- Whether the application is told when the agent server is ready. -/
  notifyReady : Bool := false
  /-- Plugins beside the built-in ones. -/
  plugins : Keyed Plugin := []

namespace Options

/-- The signing key as bytes. -/
def signingPublicKey (o : Options) : Except Error Bytes :=
  if o.signingKey.isEmpty then .error (.config "machine signing key is required")
  else
    match Encoding.Hex.decode o.signingKey with
    | .error e => .error (.config ("machine signing key is not valid hex: " ++ e.message))
    | .ok bytes =>
      if bytes.length = signingKeyLength then .ok bytes
      else
        .error (.config ("machine signing key must be " ++ toString signingKeyLength
          ++ " bytes, got " ++ toString bytes.length))

/-- Gives settings that are empty or too small their defaults. -/
def fillDefaults (o : Options) : Options :=
  { o with
    name := if o.name.isEmpty then "machine-room" else o.name
    version := if o.version.isEmpty then "development" else o.version
    factsRefreshInterval :=
      if o.factsRefreshInterval.nanos < minFactsRefresh.nanos then defaultFactsRefresh
      else o.factsRefreshInterval }

/-- Fills the defaults and checks the signing key; the defaults stay when the key is refused. -/
def validate (o : Options) : Except Error Unit × Options :=
  let filled := o.fillDefaults
  (filled.signingPublicKey.map fun _ => (), filled)

/-- The options as a document, without generators and plugins. -/
def toJson (o : Options) : Json :=
  .ofMembers
    [("name", o.name),
     ("contact", o.contact),
     ("help", o.help),
     ("version", o.version),
     ("machine_signing_key", o.signingKey),
     ("facts_refresh_interval", o.factsRefreshInterval.secs),
     ("no_standard_facts", o.noStandardFacts),
     ("no_memory_facts", o.noMemoryFacts),
     ("no_swap_facts", o.noSwapFacts),
     ("no_cpu_facts", o.noCpuFacts),
     ("no_disk_facts", o.noDiskFacts),
     ("no_host_facts", o.noHostFacts),
     ("no_network_facts", o.noNetworkFacts)]

end Options

end EdgeNode
