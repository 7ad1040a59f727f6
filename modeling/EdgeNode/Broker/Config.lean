import EdgeNode.Config
import EdgeNode.Defaults
import EdgeNode.Json.Value
import EdgeNode.Path
/-!
# Broker settings

What the embedded broker and its data adapters are started with, and the states it goes through.
-/

namespace EdgeNode

/-- The settings of a data adapter. -/
structure AdapterConfig where
  /-- Its name. -/
  name : String := "registration"
  /-- The subject it takes messages from. -/
  ingestTopic : String := registrationTarget
  /-- How messages come in. -/
  ingestProtocol : String := "request"
  /-- The number of receiving workers. -/
  ingestWorkers : Nat := 3
  /-- The subject it publishes on, with `%s` for the sender. -/
  streamTopic : String := "machine_room.nodes.%s"
  /-- The number of publishing workers. -/
  streamWorkers : Nat := 3
deriving DecidableEq, Repr

namespace AdapterConfig

/-- The adapter that copies registrations into the nodes stream. -/
def registration : AdapterConfig := {}

/-- A text with every `%s` in it replaced. -/
def replaceSender (sender : List Char) : List Char → List Char
  | '%' :: 's' :: rest => sender ++ replaceSender sender rest
  | c :: rest => c :: replaceSender sender rest
  | [] => []

/-- The subject for messages of a sender. -/
def streamSubject (a : AdapterConfig) (sender : String) : String :=
  String.ofList (replaceSender sender.toList a.streamTopic.toList)

/-- The settings as a document. -/
def toJson (a : AdapterConfig) : Json :=
  .ofMembers
    [("name", a.name),
     ("ingest_topic", a.ingestTopic),
     ("ingest_protocol", a.ingestProtocol),
     ("ingest_workers", a.ingestWorkers),
     ("stream_topic", a.streamTopic),
     ("stream_workers", a.streamWorkers)]

end AdapterConfig

/-- Where the local certificates lie. -/
structure TlsPaths where
  /-- The authority's certificate. -/
  ca : String
  /-- The leaf certificate. -/
  cert : String
  /-- The key of the leaf certificate. -/
  key : String
deriving DecidableEq, Repr

/-- The usual file names in a directory. -/
def TlsPaths.inDirectory (dir : String) : TlsPaths where
  ca := Path.join dir "ca.pem"
  cert := Path.join dir "cert.pem"
  key := Path.join dir "key.pem"

/-- The settings of the broker.  Mappings, gateways, leaf nodes, web sockets and clustering are
always off. -/
structure BrokerConfig where
  /-- The server's name. -/
  identity : String
  /-- Where it listens for clients. -/
  clientPort : Nat := EdgeNode.clientPort
  /-- The user of the system account. -/
  systemUser : String := "system"
  /-- The local certificates. -/
  tls : TlsPaths
  /-- Whether clients must be verified. -/
  tlsVerify : Bool := true
  /-- Where streams are stored. -/
  storageDirectory : String
  /-- The number of copies of internal streams. -/
  streamReplicas : Nat := 1
  /-- The data adapters. -/
  adapters : List AdapterConfig := [.registration]
deriving DecidableEq, Repr

namespace BrokerConfig

/-- The address for clients on this host. -/
def clientUrl (c : BrokerConfig) : String :=
  "nats://localhost:" ++ toString c.clientPort

/-- The settings as a document, without the certificates. -/
def toJson (c : BrokerConfig) : Json :=
  .ofMembers
    [("identity", c.identity),
     ("client_port", c.clientPort),
     ("system_user", c.systemUser),
     ("tls_verify", c.tlsVerify),
     ("storage_directory", c.storageDirectory),
     ("stream_replicas", c.streamReplicas),
     ("mappings_enabled", false),
     ("gateway_enabled", false),
     ("leafnode_enabled", false),
     ("websocket_enabled", false),
     ("cluster_enabled", false),
     ("adapters", .ofList AdapterConfig.toJson c.adapters)]

end BrokerConfig

/-- Where the broker stands. -/
inductive BrokerState where
  /-- Not launched. -/
  | notStarted
  /-- Launched. -/
  | starting
  /-- Asked time and again whether it is ready. -/
  | waitingReady
  /-- Accepting connections. -/
  | ready
  /-- Its streams are being made. -/
  | provisioningTopology
  /-- Its streams are there. -/
  | running
  /-- Given up, or ended with an error. -/
  | failed
deriving DecidableEq, Repr

/-- The name of a state. -/
def BrokerState.name : BrokerState → String
  | .notStarted => "NotStarted"
  | .starting => "Starting"
  | .waitingReady => "WaitingReady"
  | .ready => "Ready"
  | .provisioningTopology => "ProvisioningTopology"
  | .running => "Running"
  | .failed => "Failed"

/-- Every state, in the order of a life. -/
def BrokerState.all : List BrokerState :=
  [.notStarted, .starting, .waitingReady, .ready, .provisioningTopology, .running, .failed]

end EdgeNode
