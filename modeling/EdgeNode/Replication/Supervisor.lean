import EdgeNode.Replication.Copy
import EdgeNode.Role
/-!
# Supervision of replication

Every job runs by itself; the supervisor knows what became of each.  A job that fails or crashes
leaves the others alone.
-/

namespace EdgeNode

/-- What runs the jobs. -/
inductive Engine where
  /-- It copies streams. -/
  | copying (retry : RetryConfig) (poll : Duration) (framework : Framework)
  /-- The course of each job is laid down. -/
  | scripted (courseOf : String → Course)

/-- Where the run of a job stands. -/
inductive JobRun where
  /-- Copying. -/
  | copying (run : Copying) (stage : Copying.Stage)
  /-- On a course that began at an instant. -/
  | course (c : Course) (start : Nat)

namespace JobRun

/-- A new run of a job. -/
def start (e : Engine) (t : ReplicationTopology) (j : ReplicationJob) (now : Nat) : JobRun :=
  match e with
  | .copying retry poll framework =>
    .copying { job := j, topology := t, retry, poll, framework } .findingSource
  | .scripted courseOf => .course (courseOf j.name) now

/-- A step of a run. -/
def step (h : Host) (t : StopToken) : JobRun → Progress JobRun (Outcome Error Unit) × Host
  | .copying run stage =>
    match run.step h t stage with
    | (p, h) => (p.inside (.copying run), h)
  | .course c start => ((c.step h t start).inside (.course c), h)

end JobRun

/-- What is known of the jobs, by name. -/
structure Supervisor where
  /-- The states. -/
  states : Keyed JobState := []
deriving DecidableEq, Repr

namespace Supervisor

/-- What is recorded of a job that crashed. -/
def crashed : String := "<panic>"

/-- The state in which the run of a job leaves it. -/
def stateAfter : Outcome Error Unit → JobState
  | .ok () => .stopped
  | .error e => .failed e.message
  | .crash => .failed crashed

/-- The supervisor of jobs that have not begun. -/
def ofJobs (jobs : List ReplicationJob) : Supervisor where
  states := Keyed.ofList (jobs.map fun j => (j.name, .pending))

/-- The supervisor with another state for a job. -/
def record (s : Supervisor) (name : String) (state : JobState) : Supervisor :=
  { states := s.states.insert name state }

/-- Whether every job has ended. -/
def isSettled (s : Supervisor) : Bool :=
  s.states.values.all JobState.isTerminal

/-- The supervisor of a topology that may run on a node with the role. -/
def start (role : Role) (t : ReplicationTopology) : Except Error Supervisor :=
  if role.isLeader then
    match t.validate with
    | .error e => .error e
    | .ok () => .ok (ofJobs t.jobs)
  else
    .error (.config ("replication only runs on the leader, this node is a " ++ role.name))

end Supervisor

/-- Where a supervised job stands. -/
inductive SupervisedJob where
  /-- It has not begun. -/
  | pending (e : Engine) (t : ReplicationTopology)
  /-- It runs. -/
  | running (run : JobRun)

/-- A step of a supervised job. -/
def SupervisedJob.step (h : Host) (t : StopToken) (s : Supervisor) (j : ReplicationJob) :
    SupervisedJob → Progress SupervisedJob (Outcome Error Unit) × Host × Supervisor
  | .pending e topology =>
    (.next (.running (.start e topology j h.uptime)), h, s.record j.name .running)
  | .running run =>
    match run.step h t with
    | (.done result, h) => (.done (.ok ()), h, s.record j.name (Supervisor.stateAfter result))
    | (p, h) => (p.inside .running, h, s)

end EdgeNode
