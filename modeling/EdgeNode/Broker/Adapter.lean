import EdgeNode.Broker.Config
import EdgeNode.Progress
/-!
# The registration adapter

The adapter takes messages from a core bus and publishes those on its topic to a store.  One task
receives them into a queue of limited length, and workers take them from there.  Messages that the
store refuses are dropped.

A worker ends when a publication crashes.  The queue lasts as long as some worker is left: it goes
with the last of them, and the receiving task ends at the next message it has for it.
-/

namespace EdgeNode

/-- A running adapter. -/
structure RegistrationAdapter where
  /-- The settings. -/
  config : AdapterConfig
  /-- The address of the store whose bus it is subscribed to. -/
  busUrl : String
  /-- The address of the store it publishes to. -/
  storeUrl : String
  /-- Its number on the bus. -/
  subscriber : Nat
  /-- A received message that waits for a place in the queue. -/
  held : Option CoreMessage := none
  /-- The messages on their way to the workers. -/
  queue : List CoreMessage := []
  /-- How many of its workers crashed. -/
  crashed : Nat := 0
deriving DecidableEq, Repr

namespace RegistrationAdapter

/-- The most messages in the queue. -/
def queueCapacity : Nat := 1000

/-- The number of workers. -/
def workers (c : AdapterConfig) : Nat :=
  max c.streamWorkers 1

/-- Whether no worker is left to take messages from the queue. -/
def isClosed (a : RegistrationAdapter) : Bool :=
  workers a.config ≤ a.crashed

/-- What is left when a worker crashes. -/
def loseWorker (a : RegistrationAdapter) : RegistrationAdapter :=
  let a := { a with crashed := a.crashed + 1 }
  if a.isClosed then { a with queue := [] } else a

/-- Subscribes to the bus of a store. -/
def subscribe (h : Host) (config : AdapterConfig) (busUrl storeUrl : String) :
    RegistrationAdapter × Host :=
  match h.withStore busUrl fun s =>
      match s.bus.subscribe with
      | (subscriber, bus) => (subscriber, { s with bus }) with
  | (subscriber, h) => ({ config, busUrl, storeUrl, subscriber }, h)

/-- Takes the next delivery from the bus. -/
def receive? (h : Host) (a : RegistrationAdapter) : Option (Delivery × Host) :=
  let s := h.store a.busUrl
  match (s.bus.mailbox? a.subscriber).bind Mailbox.pop? with
  | none => none
  | some (d, mailbox) =>
    some (d, { h with
      network := h.network.setStore a.busUrl
        { s with bus := s.bus.setMailbox a.subscriber mailbox } })

/-- Gives up the place on the bus. -/
def leave (h : Host) (a : RegistrationAdapter) : Host :=
  (h.withStore a.busUrl fun s => ((), { s with bus := s.bus.unsubscribe a.subscriber })).2

/-- A step of the task that receives messages. -/
def receiveStep (h : Host) (t : StopToken) (a : RegistrationAdapter) :
    Progress Unit (Outcome Error Unit) × Host × RegistrationAdapter :=
  if h.isCancelled t then (.done (.ok ()), a.leave h, a)
  else
    match a.held with
    | some m =>
      if a.isClosed then (.done (.ok ()), a.leave h, { a with held := none })
      else if a.queue.length < queueCapacity then
        (.next (), h, { a with held := none, queue := a.queue ++ [m] })
      else (.wait none, h, a)
    | none =>
      match a.receive? h with
      | none => (.wait none, h, a)
      | some (.lagged _, h) => (.next (), h, a)
      | some (.message m, h) =>
        if Subject.covers a.config.ingestTopic m.subject then
          (.next (), h, { a with held := some m })
        else (.next (), h, a)

/-- A step of a worker. -/
def workStep (h : Host) (t : StopToken) (a : RegistrationAdapter) :
    Progress Unit (Outcome Error Unit) × Host × RegistrationAdapter :=
  if h.isCancelled t then (.done (.ok ()), h, a)
  else
    match a.queue with
    | [] => (.wait none, h, a)
    | m :: rest =>
      match h.withStore a.storeUrl fun s =>
          s.publish h.wallClock (a.config.streamSubject m.sender) m.payload with
      | (.crash, h) => (.done .crash, h, loseWorker { a with queue := rest })
      | (_, h) => (.next (), h, { a with queue := rest })

end RegistrationAdapter

end EdgeNode
