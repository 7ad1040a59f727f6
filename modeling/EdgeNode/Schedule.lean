import EdgeNode.Pool
/-!
# Schedules

Somebody who waits lets the tasks of a pool go on meanwhile, one step at a time.  Time passes only
when everybody waits, and then up to the next instant that somebody waits for.
-/

namespace EdgeNode

/-- The earlier of two instants, where there are any. -/
def earlier : Option Nat → Option Nat → Option Nat
  | none, b => b
  | a, none => a
  | some a, some b => some (min a b)

namespace Pool

/-- What tasks come to when they are asked in turn. -/
inductive Round where
  /-- One of them took a step. -/
  | stepped (p : Pool)
  /-- All of them wait, the first of them up to an instant. -/
  | resting (wake : Option Nat)

/-- Asks tasks in turn until one can take a step; `wake` is the first instant waited for so far. -/
def ask (p : Pool) (wake : Option Nat) : List Task → Round
  | [] => .resting wake
  | task :: rest =>
    match p.stepActivity task.token task.activity with
    | (.next activity, p) => .stepped (p.resume task.id activity)
    | (.done result, p) => .stepped (p.retire task.id result)
    | (.wait wake', _) => ask p (earlier wake wake') rest

/-- The pool one instant later on the wall clock. -/
def tick (p : Pool) : Pool :=
  { p with host := p.host.tick }

/-- What work and the tasks of a pool come to when each may take a step. -/
inductive Move (σ α : Type) where
  /-- The work is done. -/
  | finished (a : α) (p : Pool)
  /-- The work or one of the tasks took a step. -/
  | moved (stage : σ) (p : Pool)
  /-- All of them wait, the first of them up to an instant. -/
  | resting (wake : Option Nat) (p : Pool)

/-- A step of work that is done beside the tasks of a pool, or of one of the tasks.  The work goes
first whenever it can. -/
def move {σ α : Type} (work : Pool → σ → Progress σ α × Pool) (p : Pool) (stage : σ) : Move σ α :=
  match work p stage with
  | (.done a, p) => .finished a p.tick
  | (.next stage, p) => .moved stage p.tick
  | (.wait wake, p) =>
    match p.ask wake p.tasks with
    | .stepped p => .moved stage p.tick
    | .resting wake => .resting wake p

/-- The pool at a later instant. -/
def wakeAt (p : Pool) (instant : Nat) : Pool :=
  { p with host := { p.host with uptime := instant } }

/-- Waits for work that is done beside the tasks of a pool.  There is no answer when everybody waits
for ever, or when the given number of steps is used up. -/
def runUpTo {σ α : Type} (work : Pool → σ → Progress σ α × Pool) :
    Nat → Pool → σ → Option α × Pool
  | 0, p, _ => (none, p)
  | fuel + 1, p, stage =>
    match move work p stage with
    | .finished a p => (some a, p)
    | .moved stage p => runUpTo work fuel p stage
    | .resting (some instant) p => runUpTo work fuel (p.wakeAt instant) stage
    | .resting none p => (none, p)

/-- The most steps that anybody waits for. -/
def patience : Nat := 1000000000

/-- Waits for work that is done beside the tasks of a pool. -/
def run {σ α : Type} (p : Pool) (work : Pool → σ → Progress σ α × Pool) (stage : σ) :
    Option α × Pool :=
  runUpTo work patience p stage

/-- Waits up to an instant. -/
def sleepStep (instant : Nat) (p : Pool) (_ : Unit) : Progress Unit Unit × Pool :=
  if instant ≤ p.host.uptime then (.done (), p) else (.wait (some instant), p)

/-- Waits until a token is cancelled, but not beyond an instant; answers whether it was. -/
def pauseStep (t : StopToken) (instant : Nat) (p : Pool) (_ : Unit) : Progress Unit Bool × Pool :=
  match p.host.pause t instant with
  | .cut => (.done true, p)
  | .over => (.done false, p)
  | .lasting => (.wait (some instant), p)

/-- Waits until all tasks of a group have ended. -/
def drainStep (g : Group) (p : Pool) (_ : Unit) : Progress Unit Unit × Pool :=
  if p.running g = 0 then (.done (), p) else (.wait none, p)

/-- Waits for the end of a task. -/
def joinStep (id : TaskId) (p : Pool) (_ : Unit) : Progress Unit (Outcome Error Unit) × Pool :=
  match p.result? id with
  | some result => (.done result, p)
  | none => (.wait none, p)

end Pool

end EdgeNode
