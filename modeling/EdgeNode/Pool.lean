import EdgeNode.Agent
import EdgeNode.Broker.Adapter
import EdgeNode.Broker.Manager
import EdgeNode.Facts
import EdgeNode.Replication.Supervisor
/-!
# The pool of tasks

A pool holds the tasks that run beside each other, and what they share: the host, the managed
brokers, the supervisors of replication, the data adapters and the agent servers.  A task belongs
to a group, whose end can be waited for, or to none.  `Pool.stepActivity` is a step of one task;
which task goes on next is decided elsewhere.
-/

namespace EdgeNode

/-- The number of a group of tasks. -/
abbrev Group := Nat

/-- The number of a task. -/
abbrev TaskId := Nat

/-- What a task does, and how far it is. -/
inductive Activity where
  /-- Cancels a token at an instant. -/
  | cancelling (target : StopToken) (wake : Nat)
  /-- Runs a job that nobody supervises. -/
  | copying (run : JobRun)
  /-- Runs a job for a supervisor. -/
  | supervised (supervisor : Nat) (job : ReplicationJob) (stage : SupervisedJob)
  /-- Runs a broker for its manager. -/
  | broker (manager : Nat) (stage : BrokerManager.RunStage)
  /-- Makes the resources of a broker. -/
  | provisioning (manager : Nat) (spec : TopologySpec) (stage : Provisioning)
  /-- Receives messages for a data adapter. -/
  | receiving (adapter : Nat)
  /-- Publishes messages for a data adapter. -/
  | working (adapter : Nat)
  /-- Runs an agent server. -/
  | serving (agent : Nat) (stage : AgentServer.Stage)
  /-- Writes the facts from time to time. -/
  | refreshing (interval : Duration) (o : Options) (p : RuntimePaths) (stage : Facts.Refresh)

/-- A task that has not ended. -/
structure Task where
  /-- Its number. -/
  id : TaskId
  /-- Its group. -/
  group : Option Group
  /-- The token that stops it. -/
  token : StopToken
  /-- What it does. -/
  activity : Activity

/-- Tasks and what they share. -/
structure Pool where
  /-- The host. -/
  host : Host := {}
  /-- The tasks that have not ended, oldest first. -/
  tasks : List Task := []
  /-- How the other tasks ended. -/
  results : List (TaskId × Outcome Error Unit) := []
  /-- The managed brokers. -/
  brokers : List BrokerManager := []
  /-- The supervisors. -/
  supervisors : List Supervisor := []
  /-- The data adapters. -/
  adapters : List RegistrationAdapter := []
  /-- The agent servers. -/
  agents : List AgentServer := []
  /-- The number of the next task. -/
  nextTask : TaskId := 0
  /-- The next token. -/
  nextToken : StopToken := 0
  /-- The number of the next group. -/
  nextGroup : Group := 0
  /-- The number of the next callback. -/
  nextCallback : Callback := 0

namespace Pool

/-! ### Tokens, groups and tasks -/

/-- A new token. -/
def newToken (p : Pool) : StopToken × Pool :=
  (p.nextToken, { p with nextToken := p.nextToken + 1 })

/-- A new group. -/
def newGroup (p : Pool) : Group × Pool :=
  (p.nextGroup, { p with nextGroup := p.nextGroup + 1 })

/-- A new callback. -/
def newCallback (p : Pool) : Callback × Pool :=
  (p.nextCallback, { p with nextCallback := p.nextCallback + 1 })

/-- Cancels a token. -/
def cancel (p : Pool) (t : StopToken) : Pool :=
  { p with host := p.host.cancel t }

/-- Whether a token was cancelled. -/
def isCancelled (p : Pool) (t : StopToken) : Bool :=
  p.host.isCancelled t

/-- Adds a task. -/
def spawn (p : Pool) (group : Option Group) (token : StopToken) (activity : Activity) :
    TaskId × Pool :=
  (p.nextTask,
    { p with
      tasks := p.tasks ++ [{ id := p.nextTask, group, token, activity }]
      nextTask := p.nextTask + 1 })

/-- The pool in which a token will be cancelled after a pause. -/
def cancelAfter (p : Pool) (t : StopToken) (d : Duration) : Pool :=
  (p.spawn none t (.cancelling t (p.host.timer d))).2

/-- How many tasks of a group have not ended. -/
def running (p : Pool) (g : Group) : Nat :=
  (p.tasks.filter fun t => t.group == some g).length

/-- How a task ended. -/
def result? (p : Pool) (id : TaskId) : Option (Outcome Error Unit) :=
  (p.results.find? fun e => e.1 == id).map Prod.snd

/-- The pool with a task at another stage. -/
def resume (p : Pool) (id : TaskId) (activity : Activity) : Pool :=
  { p with tasks := p.tasks.map fun t => if t.id == id then { t with activity } else t }

/-- The pool when a task has ended. -/
def retire (p : Pool) (id : TaskId) (result : Outcome Error Unit) : Pool :=
  { p with
    tasks := p.tasks.filter fun t => t.id != id
    results := p.results ++ [(id, result)] }

/-! ### A step of a task -/

/-- A step of one of the managed brokers. -/
def stepBroker {σ : Type} (p : Pool) (id : Nat)
    (step : BrokerManager → Progress σ (Outcome Error Unit) × Host × BrokerManager) :
    Progress σ (Outcome Error Unit) × Pool :=
  match p.brokers[id]? with
  | none => (.done (.ok ()), p)
  | some m =>
    match step m with
    | (progress, host, m) => (progress, { p with host, brokers := p.brokers.set id m })

/-- A step of one of the data adapters. -/
def stepAdapter {σ : Type} (p : Pool) (id : Nat)
    (step : RegistrationAdapter → Progress σ (Outcome Error Unit) × Host × RegistrationAdapter) :
    Progress σ (Outcome Error Unit) × Pool :=
  match p.adapters[id]? with
  | none => (.done (.ok ()), p)
  | some a =>
    match step a with
    | (progress, host, a) => (progress, { p with host, adapters := p.adapters.set id a })

/-- A step of a task that does something under a token. -/
def stepActivity (p : Pool) (t : StopToken) :
    Activity → Progress Activity (Outcome Error Unit) × Pool
  | .cancelling target wake =>
    if wake ≤ p.host.uptime then (.done (.ok ()), p.cancel target) else (.wait (some wake), p)
  | .copying run =>
    match run.step p.host t with
    | (progress, host) => (progress.inside .copying, { p with host })
  | .supervised id job stage =>
    match p.supervisors[id]? with
    | none => (.done (.ok ()), p)
    | some s =>
      match stage.step p.host t s job with
      | (progress, host, s) =>
        (progress.inside (.supervised id job),
          { p with host, supervisors := p.supervisors.set id s })
  | .broker id stage =>
    match p.stepBroker id fun m => m.runStep p.host t stage with
    | (progress, p) => (progress.inside (.broker id), p)
  | .provisioning id spec stage =>
    match p.stepBroker id fun m => m.provisionStep p.host t spec stage with
    | (progress, p) => (progress.inside (.provisioning id spec), p)
  | .receiving id =>
    match p.stepAdapter id fun a => a.receiveStep p.host t with
    | (progress, p) => (progress.inside fun _ => .receiving id, p)
  | .working id =>
    match p.stepAdapter id fun a => a.workStep p.host t with
    | (progress, p) => (progress.inside fun _ => .working id, p)
  | .serving id stage =>
    match p.agents[id]? with
    | none => (.done (.ok ()), p)
    | some a =>
      match a.step p.host t stage with
      | (progress, host, a) =>
        (progress.inside (.serving id), { p with host, agents := p.agents.set id a })
  | .refreshing interval o paths stage =>
    match stage.step p.host t interval o paths with
    | (progress, host) => (progress.inside (.refreshing interval o paths), { p with host })

end Pool

end EdgeNode
