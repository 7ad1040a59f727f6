import EdgeNode.Crypto.Sha2
import EdgeNode.Facts.Readings
import EdgeNode.Files
import EdgeNode.Store.Basic
/-!
# The host

What all parts of a node share: the files and clocks of the machine, the stores at the addresses of
its brokers, the tokens by which work is told to stop, and the notes of who was called.
-/

namespace EdgeNode

/-- The number of a token by which work is told to stop. -/
abbrev StopToken := Nat

/-- The number of a call that someone asked for. -/
abbrev Callback := Nat

/-- What all parts of a node share. -/
structure Host where
  /-- The name of the machine. -/
  name : String := "localhost"
  /-- Its files. -/
  files : Files := {}
  /-- The stores by address. -/
  network : Network := []
  /-- The source of random bytes. -/
  entropy : Entropy := {}
  /-- The time of day, in nanoseconds since 1970. -/
  wallClock : Nat := 0
  /-- The reading, in milliseconds, of the clock that timers follow. -/
  uptime : Nat := 0
  /-- The tokens that were cancelled. -/
  cancelled : List StopToken := []
  /-- The factor by which pauses between attempts are stretched. -/
  jitter : Float := 1.0
  /-- What the machine tells about itself. -/
  readings : Readings := {}
  /-- The generators of facts that were asked, once for every time. -/
  asked : List Nat := []
  /-- The ready callbacks that were called, in order. -/
  called : List Callback := []

namespace Host

/-- Whether a token was cancelled. -/
def isCancelled (h : Host) (t : StopToken) : Bool :=
  h.cancelled.contains t

/-- Cancels a token. -/
def cancel (h : Host) (t : StopToken) : Host :=
  { h with cancelled := t :: h.cancelled }

/-- The store at an address. -/
def store (h : Host) (url : String) : Store :=
  h.network.store url

/-- Works on the store at an address. -/
def withStore {α : Type} (h : Host) (url : String) (work : Store → α × Store) : α × Host :=
  match work (h.store url) with
  | (a, s) => (a, { h with network := h.network.setStore url s })

@[simp] theorem store_withStore_self {α : Type} (h : Host) (url : String)
    (work : Store → α × Store) :
    (h.withStore url work).2.store url = (work (h.store url)).2 := by
  simp [withStore, store, Network.store, Network.setStore]

theorem store_withStore_of_ne {α : Type} {h : Host} {url other : String} (hne : url ≠ other)
    (work : Store → α × Store) : (h.withStore url work).2.store other = h.store other := by
  simp [withStore, store, Network.store, Network.setStore, hne]

@[simp] theorem withStore_fst {α : Type} (h : Host) (url : String) (work : Store → α × Store) :
    (h.withStore url work).1 = (work (h.store url)).1 := rfl

/-- The instant at which a pause ends that begins now. -/
def timer (h : Host) (d : Duration) : Nat :=
  h.uptime + d.pauseMillis

/-- The instant after this one. -/
def tick (h : Host) : Host :=
  { h with wallClock := h.wallClock + 1000 }

/-- Calls callbacks in order. -/
def call (h : Host) (callbacks : List Callback) : Host :=
  { h with called := h.called ++ callbacks }

end Host

end EdgeNode
