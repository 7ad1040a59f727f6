import EdgeNode.Progress
/-!
# Shutdown

An interrupt cancels a node and arms a timer that forces the exit if the node does not end in time.
-/

namespace EdgeNode

/-- When an interrupt comes, or when it turns out that none can be received. -/
inductive Interrupt where
  /-- It comes at an instant. -/
  | comes (instant : Nat)
  /-- It turns out at an instant that interrupts cannot be received. -/
  | fails (instant : Nat)
  /-- None comes. -/
  | never
deriving DecidableEq, Repr

/-- A step of the watch for an interrupt of work under a token.  The answer says whether one came;
then the token is cancelled and the exit will be forced. -/
def Interrupt.step (h : Host) (t : StopToken) (i : Interrupt) : Progress Unit Bool × Host :=
  if h.isCancelled t then (.done false, h)
  else
    match i with
    | .never => (.wait none, h)
    | .fails instant => if instant ≤ h.uptime then (.done false, h) else (.wait (some instant), h)
    | .comes instant =>
      if instant ≤ h.uptime then (.done true, h.cancel t) else (.wait (some instant), h)

end EdgeNode
