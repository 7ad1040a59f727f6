import EdgeNode.Duration
import EdgeNode.Error
import EdgeNode.Outcome
/-!
# Retrying

An operation that may fail for a while is attempted again and again, with growing pauses, until it
succeeds, the permitted attempts are used up or it is cancelled.  `Retry.Stage` says where such an
operation stands; `Retry.step` is the only way on.
-/

universe u v

namespace EdgeNode

/-- How often and at what pace an operation is attempted. -/
structure RetryConfig where
  /-- The most attempts; zero permits any number. -/
  maxAttempts : Nat := 0
  /-- The pause after the first failure. -/
  initial : Duration := .ofMillis 100
  /-- The longest pause. -/
  max : Duration := .ofSecs 30
  /-- How much longer each pause is than the one before. -/
  multiplier : Float := 2.0
  /-- The number of failures that are expected. -/
  warnAfter : Nat := 10

namespace RetryConfig

/-- The lesser of two floats; one that is not a number does not count. -/
def least (x y : Float) : Float :=
  if x.isNaN then y else if y.isNaN then x else if x < y then x else y

/-- The pause that follows a pause, if there is one. -/
def nextDelay? (c : RetryConfig) (current : Duration) : Option Duration :=
  Duration.ofFloat? (least (current.toFloat * c.multiplier) c.max.toFloat)

/-- So many pauses that follow a pause, if there are as many. -/
def delays? (c : RetryConfig) (current : Duration) : Nat → Option (List Duration)
  | 0 => some []
  | n + 1 =>
    match c.nextDelay? current with
    | none => none
    | some next => (c.delays? next n).map (next :: ·)

end RetryConfig

namespace Retry

/-- Where a retried operation stands. -/
inductive Stage where
  /-- About to be attempted, `attempts` times so far; `delay` is the pause after another failure. -/
  | ready (attempts : Nat) (delay : Duration)
  /-- Pausing after a failure up to an instant; `delay` is the pause without its jitter. -/
  | pausing (attempts : Nat) (delay : Duration) (wake : Nat)
deriving DecidableEq, Repr

/-- The stage in which a retried operation begins. -/
def Stage.start (c : RetryConfig) : Stage :=
  .ready 0 c.initial

/-- What a step of a retried operation comes to. -/
inductive Turn (ε : Type u) (α : Type v) where
  /-- It goes on at another stage. -/
  | next (stage : Stage)
  /-- Nothing happens before an instant, unless it is cancelled. -/
  | wait (wake : Nat)
  /-- The last attempt succeeded, with its number. -/
  | success (attempts : Nat) (a : α)
  /-- Cancelled after so many attempts. -/
  | cancelled (attempts : Nat)
  /-- The last permitted attempt failed. -/
  | exhausted (attempts : Nat) (e : ε)
  /-- A pause has no length. -/
  | crash

/-- What follows the attempt with a number: the end, or a pause of the delay times the jitter. -/
def afterAttempt {ε : Type u} {α : Type v} (c : RetryConfig) (jitter : Float) (now attempt : Nat)
    (delay : Duration) : Outcome ε α → Turn ε α
  | .ok a => .success attempt a
  | .crash => .crash
  | .error e =>
    if c.maxAttempts > 0 ∧ attempt ≥ c.maxAttempts then .exhausted attempt e
    else
      match Duration.ofFloat? (delay.toFloat * jitter) with
      | none => .crash
      | some pause => .next (.pausing attempt delay (now + pause.pauseMillis))

/-- What follows a pause: another attempt, or the end when it is cancelled. -/
def afterPause {ε : Type u} {α : Type v} (c : RetryConfig) (now : Nat) (isCancelled : Bool)
    (attempts : Nat) (delay : Duration) (wake : Nat) : Turn ε α :=
  if isCancelled then .cancelled attempts
  else if now < wake then .wait wake
  else
    match c.nextDelay? delay with
    | none => .crash
    | some delay => .next (.ready attempts delay)

/-- A step of a retried operation in a world `σ`.  A cancelled operation is not attempted again,
and an attempt, once begun, is finished. -/
def step {σ : Type} {ε : Type u} {α : Type v} (c : RetryConfig) (jitter : Float) (now : Nat)
    (isCancelled : Bool) (operation : Nat → σ → Outcome ε α × σ) (world : σ) :
    Stage → Turn ε α × σ
  | .ready attempts delay =>
    if isCancelled then (.cancelled attempts, world)
    else
      match operation (attempts + 1) world with
      | (outcome, world) => (afterAttempt c jitter now (attempts + 1) delay outcome, world)
  | .pausing attempts delay wake => (afterPause c now isCancelled attempts delay wake, world)

end Retry

end EdgeNode
