import EdgeNode.Bytes
/-!
# The core bus

Messages that no stream keeps go to whoever is subscribed at the time.  Every subscriber has a
mailbox of limited size; when it is full the oldest message in it is lost, and the subscriber
learns how many it lost before it reads on.
-/

namespace EdgeNode

/-- A message on the core bus. -/
structure CoreMessage where
  /-- The subject it was published on. -/
  subject : String
  /-- The identity of the publisher. -/
  sender : String
  /-- Its body. -/
  payload : Bytes
deriving DecidableEq, Repr

/-- What waits for a subscriber. -/
structure Mailbox where
  /-- How many messages were lost since the subscriber last read. -/
  missed : Nat := 0
  /-- The messages, oldest first. -/
  queue : List CoreMessage := []
  /-- The number of messages in the queue. -/
  size : Nat := queue.length
deriving DecidableEq, Repr

/-- What a subscriber reads. -/
inductive Delivery where
  /-- A message. -/
  | message (m : CoreMessage)
  /-- So many messages were lost. -/
  | lagged (count : Nat)
deriving DecidableEq, Repr

namespace Mailbox

/-- The most messages that wait for a subscriber. -/
def capacity : Nat := 1024

/-- Adds a message. -/
def push (b : Mailbox) (m : CoreMessage) : Mailbox :=
  if b.size < capacity then { b with queue := b.queue ++ [m], size := b.size + 1 }
  else { b with queue := b.queue.drop 1 ++ [m], missed := b.missed + 1 }

/-- Takes what comes next. -/
def pop? (b : Mailbox) : Option (Delivery × Mailbox) :=
  if b.missed > 0 then some (.lagged b.missed, { b with missed := 0 })
  else
    match b.queue with
    | [] => none
    | m :: rest => some (.message m, { b with queue := rest, size := b.size - 1 })

/-- Everything that waits. -/
def drain (b : Mailbox) : List Delivery :=
  (if b.missed > 0 then [.lagged b.missed] else []) ++ b.queue.map .message

end Mailbox

/-- The bus: the mailboxes of its subscribers. -/
structure Bus where
  /-- The number the next subscriber gets. -/
  next : Nat := 0
  /-- The mailboxes by number. -/
  mailboxes : List (Nat × Mailbox) := []
deriving DecidableEq, Repr

namespace Bus

/-- A new subscriber with an empty mailbox. -/
def subscribe (b : Bus) : Nat × Bus :=
  (b.next, { next := b.next + 1, mailboxes := b.mailboxes ++ [(b.next, {})] })

/-- The bus without a subscriber. -/
def unsubscribe (b : Bus) (id : Nat) : Bus :=
  { b with mailboxes := b.mailboxes.filter fun e => e.1 != id }

/-- Puts a message into every mailbox; answers their number. -/
def publish (b : Bus) (m : CoreMessage) : Nat × Bus :=
  (b.mailboxes.length, { b with mailboxes := b.mailboxes.map fun e => (e.1, e.2.push m) })

/-- The mailbox of a subscriber. -/
def mailbox? (b : Bus) (id : Nat) : Option Mailbox :=
  (b.mailboxes.find? fun e => e.1 == id).map Prod.snd

/-- The bus with another mailbox for a subscriber. -/
def setMailbox (b : Bus) (id : Nat) (m : Mailbox) : Bus :=
  { b with mailboxes := b.mailboxes.map fun e => if e.1 == id then (id, m) else e }

end Bus

end EdgeNode
