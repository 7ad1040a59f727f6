import EdgeNode.Host
import EdgeNode.Retry
/-!
# Progress of running work

Work that runs beside other work goes on step by step.  After each step it is at a new stage, has
to wait, or is done.  Work that waits is unchanged: it may be asked again at any time.
-/

universe u v

namespace EdgeNode

/-- What a step of running work comes to. -/
inductive Progress (σ : Type u) (α : Type v) where
  /-- It is at another stage. -/
  | next (stage : σ)
  /-- Nothing can be done before an instant, or before others do something. -/
  | wait (wake : Option Nat)
  /-- It is done. -/
  | done (a : α)
deriving DecidableEq, Repr

namespace Progress

variable {σ τ : Type u} {α β : Type v}

/-- The progress of work of which this is a part. -/
def inside (f : σ → τ) : Progress σ α → Progress τ α
  | .next s => .next (f s)
  | .wait wake => .wait wake
  | .done a => .done a

/-- The progress with another result. -/
def map (f : α → β) : Progress σ α → Progress σ β
  | .next s => .next s
  | .wait wake => .wait wake
  | .done a => .done (f a)

end Progress

/-- How a pause stands that cancellation cuts short. -/
inductive Pause where
  /-- It goes on. -/
  | lasting
  /-- It is over. -/
  | over
  /-- It was cut short. -/
  | cut
deriving DecidableEq, Repr

/-- How a pause up to an instant stands.  Cancellation counts before the end of the time. -/
def Host.pause (h : Host) (t : StopToken) (wake : Nat) : Pause :=
  if h.isCancelled t then .cut else if wake ≤ h.uptime then .over else .lasting

/-- The progress that a turn of a retried operation makes. -/
def Retry.Turn.progress {ε α : Type} (operation : String) :
    Retry.Turn ε α → Progress Retry.Stage (Outcome (RetryError ε) (Nat × α))
  | .next stage => .next stage
  | .wait wake => .wait (some wake)
  | .success n a => .done (.ok (n, a))
  | .cancelled n => .done (.error (.cancelled operation n))
  | .exhausted n e => .done (.error (.exhausted operation n e))
  | .crash => .done .crash

/-- The course of work that is laid down beforehand. -/
inductive Course where
  /-- It ends by itself after a time. -/
  | ends (after : Duration) (outcome : Outcome Error Unit)
  /-- It ends when it is cancelled. -/
  | lasts
deriving DecidableEq, Repr

/-- The progress of such work that began at an instant. -/
def Course.step (c : Course) (h : Host) (t : StopToken) (start : Nat) :
    Progress Nat (Outcome Error Unit) :=
  match c with
  | .ends after outcome =>
    if start + after.pauseMillis ≤ h.uptime then .done outcome
    else .wait (some (start + after.pauseMillis))
  | .lasts => if h.isCancelled t then .done (.ok ()) else .wait none

end EdgeNode
