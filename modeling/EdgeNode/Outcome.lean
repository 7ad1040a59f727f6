/-!
# Outcomes

An operation answers a value or an error, or it crashes: the task that called it ends without an
answer, while what the operation changed before stays changed.
-/

universe u v w

namespace EdgeNode

/-- How an operation ends. -/
inductive Outcome (ε : Type u) (α : Type v) where
  /-- With a value. -/
  | ok (a : α)
  /-- With an error. -/
  | error (e : ε)
  /-- Not at all. -/
  | crash
deriving DecidableEq, Repr

namespace Outcome

variable {ε : Type u} {α : Type v} {β : Type w}

/-- The outcome of a computation that does not crash. -/
def ofExcept : Except ε α → Outcome ε α
  | .ok a => .ok a
  | .error e => .error e

/-- The value replaced. -/
def map (f : α → β) : Outcome ε α → Outcome ε β
  | .ok a => .ok (f a)
  | .error e => .error e
  | .crash => .crash

/-- The error replaced. -/
def mapError {ε' : Type w} (f : ε → ε') : Outcome ε α → Outcome ε' α
  | .ok a => .ok a
  | .error e => .error (f e)
  | .crash => .crash

end Outcome

end EdgeNode
