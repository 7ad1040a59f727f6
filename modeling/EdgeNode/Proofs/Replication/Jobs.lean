import EdgeNode.Proofs.Replication.Validation
import EdgeNode.Proofs.Tables
import EdgeNode.Replication.Supervisor
import Mathlib.Data.List.Nodup
import Mathlib.Logic.Relation
/-!
# Jobs and what is known of them

A supervisor keeps a table of its jobs by name, and a topology that is accepted gives no name twice.
`JobStands` says of one job how the stage of its task, the calls of its engine and its entry in the
table fit together; every step of the job keeps it.
-/

namespace EdgeNode

open Relation (ReflTransGen)

/-! ### Names -/

namespace ReplicationTopology

/-- An accepted topology gives no name twice. -/
lemma nodup_of_validate {t : ReplicationTopology} (h : t.validate = .ok ()) :
    (t.jobs.map ReplicationJob.name).Nodup :=
  (fit_of_validate h).2.2.distinct

end ReplicationTopology

/-! ### What an engine is asked for -/

/-- A call of an engine. -/
inductive EngineCall where
  /-- It is asked to run a job; the run begins. -/
  | begins (job : ReplicationJob) (run : JobRun)
  /-- Its run of a job has come to an end. -/
  | returns (job : ReplicationJob) (outcome : Outcome Error Unit)

/-- The job that a call is about. -/
def EngineCall.job : EngineCall → ReplicationJob
  | .begins j _ => j
  | .returns j _ => j

namespace JobRun

/-- A run leads on to another stage. -/
def Leads : JobRun → JobRun → Prop :=
  ReflTransGen fun run run' => ∃ h t h', run.step h t = (.next run', h')

/-- A run comes to an outcome. -/
def Returns (run : JobRun) (o : Outcome Error Unit) : Prop :=
  ∃ last h t h', run.Leads last ∧ last.step h t = (.done o, h')

end JobRun

/-- A state that a job comes to from another. -/
inductive JobState.Advances : JobState → JobState → Prop
  | begins : Advances .pending .running
  | ends {state : JobState} (h : state.isTerminal) : Advances .running state

/-- What a step of a job comes to: the stage after it, unless it has ended, what its engine was
called for, and what is recorded of it. -/
inductive SupervisedJob.Step (h : Host) (t : StopToken) (j : ReplicationJob) :
    SupervisedJob → Option SupervisedJob → List EngineCall → Option JobState → Prop
  | begins {e : Engine} {topology : ReplicationTopology} :
    Step h t j (.pending e topology) (some (.running (.start e topology j h.uptime)))
      [.begins j (.start e topology j h.uptime)] (some .running)
  | goesOn {run run' : JobRun} {h' : Host} (hrun : run.step h t = (.next run', h')) :
    Step h t j (.running run) (some (.running run')) [] none
  | waits {run : JobRun} : Step h t j (.running run) (some (.running run)) [] none
  | returns {run : JobRun} {o : Outcome Error Unit} {h' : Host}
    (hrun : run.step h t = (.done o, h')) :
    Step h t j (.running run) none [.returns j o] (some (Supervisor.stateAfter o))

/-- Where a job stands: the stage of its task, unless that has ended, the calls of its engine and
the state that is known of it. -/
inductive JobStands (e : Engine) (topology : ReplicationTopology) (j : ReplicationJob) :
    Option SupervisedJob → List EngineCall → JobState → Prop
  /-- Its engine has not been called. -/
  | pending : JobStands e topology j (some (.pending e topology)) [] .pending
  /-- Its engine was called once, with its own record. -/
  | running {now : Nat} {run : JobRun} (h : (JobRun.start e topology j now).Leads run) :
    JobStands e topology j (some (.running run)) [.begins j (.start e topology j now)] .running
  /-- That call has returned, and the state says what. -/
  | ended {now : Nat} {o : Outcome Error Unit} (h : (JobRun.start e topology j now).Returns o) :
    JobStands e topology j none [.begins j (.start e topology j now), .returns j o]
      (Supervisor.stateAfter o)

lemma isTerminal_stateAfter (o : Outcome Error Unit) : (Supervisor.stateAfter o).isTerminal := by
  rcases o with ⟨⟩ | e | _ <;> rfl

section

variable {e : Engine} {topology : ReplicationTopology} {j : ReplicationJob} {h : Host}
  {t : StopToken} {stage : SupervisedJob} {stage? : Option SupervisedJob}
  {calls new : List EngineCall} {recorded? : Option JobState} {state : JobState}

lemma SupervisedJob.Step.job_eq (hstep : SupervisedJob.Step h t j stage stage? new recorded?) :
    ∀ call ∈ new, call.job = j := by
  intro call hcall
  cases hstep with
  | begins | returns _ =>
    obtain rfl := List.mem_singleton.1 hcall
    rfl
  | goesOn _ | waits => contradiction

/-- A job stands as before after a step of its own, one step on. -/
lemma JobStands.step (hstands : JobStands e topology j (some stage) calls state)
    (hstep : SupervisedJob.Step h t j stage stage? new recorded?) :
    JobStands e topology j stage? (calls ++ new) (recorded?.getD state) := by
  cases hstands with
  | pending =>
    cases hstep with
    | begins => exact .running .refl
  | running hleads =>
    cases hstep with
    | goesOn hrun =>
      rw [List.append_nil]
      exact .running (hleads.tail ⟨_, _, _, hrun⟩)
    | waits =>
      rw [List.append_nil]
      exact .running hleads
    | returns hrun => exact .ended ⟨_, _, _, _, hleads, hrun⟩

/-- What is recorded of a job is the next of its states. -/
lemma JobStands.advances (hstands : JobStands e topology j (some stage) calls state)
    (hstep : SupervisedJob.Step h t j stage stage? new recorded?) :
    ∀ state' ∈ recorded?, state.Advances state' := by
  intro state' hstate'
  cases hstands with
  | pending =>
    cases hstep with
    | begins =>
      obtain rfl := Option.some.inj hstate'
      exact .begins
  | running _ =>
    cases hstep with
    | goesOn _ | waits => contradiction
    | returns _ =>
      obtain rfl := Option.some.inj hstate'
      exact .ends (isTerminal_stateAfter _)

lemma JobStands.stopped_iff (hstands : JobStands e topology j stage? calls state) :
    state = .stopped ↔ .returns j (.ok ()) ∈ calls := by
  cases hstands with
  | pending | running _ => simp
  | @ended _ o _ => rcases o with ⟨⟩ | err | _ <;> simp [Supervisor.stateAfter]

lemma JobStands.failed_iff (hstands : JobStands e topology j stage? calls state) :
    (∃ reason, state = .failed reason) ↔ ∃ o, o ≠ .ok () ∧ .returns j o ∈ calls := by
  cases hstands with
  | pending | running _ => simp
  | @ended _ o _ => rcases o with ⟨⟩ | err | _ <;> simp [Supervisor.stateAfter]

end

/-! ### The supervisor's record -/

namespace Supervisor

variable {s : Supervisor} {name : String}

/-- The supervisor when something may have been recorded of a job. -/
def after (s : Supervisor) (name : String) : Option JobState → Supervisor
  | none => s
  | some state => s.record name state

lemma sorted_after (hs : s.states.Sorted) (name : String) (recorded? : Option JobState) :
    (s.after name recorded?).states.Sorted := by
  cases recorded? with
  | none => exact hs
  | some state => exact hs.insert name state

lemma keys_after (hs : s.states.Sorted) (hname : s.states.has name)
    (recorded? : Option JobState) : (s.after name recorded?).states.keys = s.states.keys := by
  cases recorded? with
  | none => rfl
  | some state => exact Keyed.keys_insert hs hname state

lemma get?_after_self {state : JobState} (h : s.states.get? name = some state)
    (recorded? : Option JobState) :
    (s.after name recorded?).states.get? name = some (recorded?.getD state) := by
  cases recorded? with
  | none => exact h
  | some state' =>
    show (s.states.insert name state').get? name = _
    rw [Keyed.get?_insert, if_pos rfl]
    rfl

lemma get?_after_of_ne {other : String} (hne : name ≠ other) (recorded? : Option JobState) :
    (s.after name recorded?).states.get? other = s.states.get? other := by
  cases recorded? with
  | none => rfl
  | some state =>
    show (s.states.insert name state).get? other = _
    rw [Keyed.get?_insert, if_neg hne]

lemma sorted_ofJobs (jobs : List ReplicationJob) : (ofJobs jobs).states.Sorted :=
  Keyed.sorted_ofList _

lemma get?_ofJobs (jobs : List ReplicationJob) (name : String) :
    (ofJobs jobs).states.get? name
      = if name ∈ jobs.map ReplicationJob.name then some .pending else none := by
  have hnames : (jobs.map fun j => (j.name, JobState.pending))
      = (jobs.map ReplicationJob.name).map fun name => (name, JobState.pending) := by
    rw [List.map_map]
    rfl
  rw [ofJobs, hnames, Keyed.get?_ofList_const]

lemma mem_keys_ofJobs {jobs : List ReplicationJob} :
    name ∈ (ofJobs jobs).states.keys ↔ ∃ j ∈ jobs, j.name = name := by
  rw [Keyed.mem_keys_iff, Keyed.has, get?_ofJobs, ← List.mem_map]
  by_cases hmem : name ∈ jobs.map ReplicationJob.name <;> simp [hmem]

end Supervisor

end EdgeNode
