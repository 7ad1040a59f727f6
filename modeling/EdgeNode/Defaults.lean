import EdgeNode.Duration
/-!
# Fixed settings

Addresses, names and intervals that every node shares.
-/

namespace EdgeNode

/-- Where the embedded broker listens for clients. -/
def clientPort : Nat := 9222

/-- The address at which replication reaches the embedded broker. -/
def localBrokerUrl : String := "nats://localhost:9222"

/-- The collective that every agent joins. -/
def defaultCollective : String := "choria"

/-- The subject that agents publish registration data on. -/
def registrationTarget : String := "choria.broadcast.agent.registration"

/-- The time between an interrupt and a forced exit. -/
def shutdownGrace : Duration := .ofSecs 5

/-- The time between two checks whether the broker is ready. -/
def brokerPoll : Duration := .ofMillis 500

/-- The time between two writes of the facts. -/
def defaultFactsRefresh : Duration := .ofSecs 600

/-- The shortest time between two writes of the facts. -/
def minFactsRefresh : Duration := .ofSecs 60

/-- The time between two registrations of an agent. -/
def registrationInterval : Duration := .ofSecs 300

/-- The root of a node's mutable state. -/
def defaultStateDirectory : String := "/var/lib/choria/machine-room"

/-- The most entries in the submission spool. -/
def submissionSpoolSize : Nat := 5000

end EdgeNode
