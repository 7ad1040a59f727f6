import EdgeNode.Host
import EdgeNode.Topology
/-!
# Links to a store

Resources are made over a link: it can be connected, and it can then look a resource up and create
it.  A link works on a state of its own, so that the same steps run over the store of a broker,
over one that refuses connections for a while and over one whose answers are laid down.
-/

namespace EdgeNode

/-- A way to a store, as part of a state `σ`. -/
structure StoreLink (σ : Type) where
  /-- Connects under a name. -/
  connect : String → σ → Except Error Unit × σ
  /-- Looks a resource up. -/
  lookup : Resource → σ → Outcome StoreError StreamInfo × σ
  /-- Creates a resource. -/
  create : Resource → σ → Except StoreError StreamInfo × σ

/-- The answer of a broker to an attempt to connect. -/
def openConnection (accepting : Bool) (name : String) : Except Error Unit :=
  if accepting then .ok ()
  else .error (.connectivity name "broker is not accepting connections")

namespace StoreLink

/-- The link to the store at an address, while the broker there accepts connections. -/
def toHost (url : String) (accepting : Bool) : StoreLink Host where
  connect name h := (openConnection accepting name, h)
  lookup r h := h.withStore url fun s => s.lookup h.wallClock r
  create r h := h.withStore url fun s => s.create r

/-- The link as part of a state that holds something else behind it. -/
def inFirst {σ τ : Type} (link : StoreLink σ) : StoreLink (σ × τ) where
  connect name s := ((link.connect name s.1).1, (link.connect name s.1).2, s.2)
  lookup r s := ((link.lookup r s.1).1, (link.lookup r s.1).2, s.2)
  create r s := ((link.create r s.1).1, (link.create r s.1).2, s.2)

/-- The link as part of a state that holds something else in front of it. -/
def inSecond {σ τ : Type} (link : StoreLink τ) : StoreLink (σ × τ) where
  connect name s := ((link.connect name s.2).1, s.1, (link.connect name s.2).2)
  lookup r s := ((link.lookup r s.2).1, s.1, (link.lookup r s.2).2)
  create r s := ((link.create r s.2).1, s.1, (link.create r s.2).2)

/-- Who was let through to a store so far. -/
structure Gate where
  /-- How many connections will still be refused. -/
  refusals : Nat := 0
  /-- How many connections were asked for. -/
  connects : Nat := 0
deriving DecidableEq, Repr

/-- The link behind a gate that refuses the first connections. -/
def gated {σ : Type} (link : StoreLink σ) : StoreLink (Gate × σ) where
  connect name
    | (g, s) =>
      let passed := { g with connects := g.connects + 1 }
      if g.refusals > 0 then
        (.error (.connectivity name "connection refused"),
          { passed with refusals := g.refusals - 1 }, s)
      else
        match link.connect name s with
        | (result, s) => (result, passed, s)
  lookup r
    | (g, s) =>
      match link.lookup r s with
      | (answer, s) => (answer, g, s)
  create r
    | (g, s) =>
      match link.create r s with
      | (answer, s) => (answer, g, s)

/-- An answer that is laid down. -/
inductive Reply where
  /-- The request succeeds. -/
  | granted
  /-- Nothing has the name. -/
  | notFound
  /-- Something has the name already. -/
  | alreadyExists
  /-- No stream captures the subject. -/
  | noMatchingStream
  /-- The store does not answer. -/
  | unavailable
deriving DecidableEq, Repr

/-- The answer with a name; any other name grants. -/
def Reply.ofName : String → Reply
  | "not_found" => .notFound
  | "already_exists" => .alreadyExists
  | "no_match" => .noMatchingStream
  | "unavailable" => .unavailable
  | _ => .granted

/-- A store whose answers are laid down. -/
structure Script where
  /-- The answers to come; requests beyond them succeed. -/
  replies : List Reply := []
  /-- The requests so far. -/
  calls : List String := []
deriving DecidableEq, Repr

namespace Script

/-- The answer to a request about a name. -/
def answer (name : String) (number : Nat) : Reply → Except StoreError StreamInfo
  | .granted => .ok { name, subjects := [], messages := 0, lastSequence := 0 }
  | .notFound => .error (.notFound name)
  | .alreadyExists => .error (.alreadyExists name)
  | .noMatchingStream => .error (.noMatchingStream name)
  | .unavailable => .error (.unavailable ("call " ++ toString number))

/-- Takes a request. -/
def take (s : Script) (request name : String) : Except StoreError StreamInfo × Script :=
  let calls := s.calls ++ [request ++ " " ++ name]
  match s.replies with
  | [] => (answer name calls.length .granted, { s with calls })
  | reply :: rest => (answer name calls.length reply, { replies := rest, calls })

end Script

/-- The link to a store whose answers are laid down. -/
def scripted : StoreLink Script where
  connect _ s := (.ok (), s)
  lookup r s :=
    let request := match r with
      | .bucket _ => "bucket_info"
      | .stream _ => "stream_info"
    match s.take request r.name with
    | (answer, s) => (.ofExcept answer, s)
  create r s :=
    let request := match r with
      | .bucket _ => "create_bucket"
      | .stream _ => "create_stream"
    s.take request r.name

end StoreLink

end EdgeNode
