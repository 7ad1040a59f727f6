import EdgeNode.Launch
import EdgeNode.Schedule
import Mathlib.Data.List.Basic
import Mathlib.Logic.Relation
/-!
# Steps of the tasks of a pool

A task works on the host and on the broker, supervisor, data adapter or agent server that it belongs
to.  It launches nothing itself, and what it goes on with is work of the kind that it did before.
Who waits for something meanwhile sees the others only through `Pool.turn`.
-/

namespace EdgeNode

lemma Progress.inside_eq_next {σ τ α : Type} {f : σ → τ} {p : Progress σ α} {stage : τ}
    (h : p.inside f = .next stage) : ∃ s, p = .next s ∧ f s = stage := by
  cases p with
  | next s => exact ⟨s, rfl, Progress.next.inj h⟩
  | wait wake => contradiction
  | done a => contradiction

lemma Progress.inside_eq_done {σ τ α : Type} {f : σ → τ} {p : Progress σ α} {a : α}
    (h : p.inside f = .done a) : p = .done a := by
  cases p with
  | next s => contradiction
  | wait wake => contradiction
  | done a' => exact congrArg Progress.done (Progress.done.inj h)

namespace Host

variable {h : Host} {t : StopToken} {wake : Nat}

lemma isCancelled_of_pause (hcut : h.pause t wake = .cut) : h.isCancelled t = true := by
  unfold pause at hcut
  split at hcut
  · assumption
  · split at hcut <;> contradiction

lemma le_uptime_of_pause (hover : h.pause t wake = .over) : wake ≤ h.uptime := by
  unfold pause at hover
  split at hover
  · contradiction
  · split at hover
    · assumption
    · contradiction

end Host

/-- What a task is there for. -/
inductive Work where
  /-- For the run of a broker. -/
  | broker (manager : Nat)
  /-- For the resources of a broker. -/
  | provisioning (manager : Nat)
  /-- For a supervisor. -/
  | replication (supervisor : Nat)
  /-- For something else. -/
  | other
deriving DecidableEq, Repr

/-- What an activity is for. -/
def Activity.work : Activity → Work
  | .broker id _ => .broker id
  | .provisioning id _ _ => .provisioning id
  | .supervised id _ _ => .replication id
  | _ => .other

/-- What an activity can go on with: the same work at another stage. -/
inductive Activity.Continues : Activity → Activity → Prop
  | copying (run run' : JobRun) : Continues (.copying run) (.copying run')
  | supervised (id : Nat) (j : ReplicationJob) (stage stage' : SupervisedJob) :
    Continues (.supervised id j stage) (.supervised id j stage')
  | broker (id : Nat) (stage stage' : BrokerManager.RunStage) :
    Continues (.broker id stage) (.broker id stage')
  | provisioning (id : Nat) (spec : TopologySpec) (stage stage' : Provisioning) :
    Continues (.provisioning id spec stage) (.provisioning id spec stage')
  | receiving (id : Nat) : Continues (.receiving id) (.receiving id)
  | working (id : Nat) : Continues (.working id) (.working id)
  | serving (id : Nat) (stage stage' : AgentServer.Stage) :
    Continues (.serving id stage) (.serving id stage')
  | refreshing (interval : Duration) (o : Options) (paths : RuntimePaths)
    (stage stage' : Facts.Refresh) :
    Continues (.refreshing interval o paths stage) (.refreshing interval o paths stage')

lemma Activity.Continues.work_eq {a a' : Activity} (h : a.Continues a') : a'.work = a.work := by
  cases h <;> rfl

namespace Pool

variable {p p' : Pool} {t : StopToken} {a a' : Activity} {id : Nat}

/-! ### The turn of a task -/

/-- The pool when a task has been asked for a step. -/
def turn (p : Pool) (task : Task) : Pool :=
  match p.stepActivity task.token task.activity with
  | (.next activity, p) => p.resume task.id activity
  | (.done result, p) => p.retire task.id result
  | (.wait _, _) => p

lemma exists_turn_of_ask {wake : Option Nat} {tasks : List Task}
    (h : p.ask wake tasks = .stepped p') : ∃ task ∈ tasks, p' = p.turn task := by
  induction tasks generalizing wake with
  | nil => contradiction
  | cons task rest ih =>
    simp only [ask] at h
    split at h
    · next activity after hstep =>
      refine ⟨task, List.mem_cons_self, ?_⟩
      rw [turn, hstep]
      exact (Round.stepped.inj h).symm
    · next result after hstep =>
      refine ⟨task, List.mem_cons_self, ?_⟩
      rw [turn, hstep]
      exact (Round.stepped.inj h).symm
    · obtain ⟨other, hother, hturn⟩ := ih h
      exact ⟨other, List.mem_cons_of_mem _ hother, hturn⟩

lemma exists_turn_of_move {σ α : Type} {work : Pool → σ → Progress σ α × Pool} {stage stage' : σ}
    (h : move work p stage = .moved stage' p') :
    (∃ after, work p stage = (.next stage', after) ∧ p' = after.tick) ∨
    (stage' = stage ∧ ∃ wake after, work p stage = (.wait wake, after) ∧
      ∃ task ∈ after.tasks, p' = (after.turn task).tick) := by
  simp only [move] at h
  split at h
  · contradiction
  · next after hwork =>
    obtain ⟨rfl, rfl⟩ := Move.moved.inj h
    exact .inl ⟨after, hwork, rfl⟩
  · next wake after hwork =>
    split at h
    · next stepped hask =>
      obtain ⟨rfl, rfl⟩ := Move.moved.inj h
      obtain ⟨task, htask, rfl⟩ := exists_turn_of_ask hask
      exact .inr ⟨rfl, wake, after, hwork, task, htask, rfl⟩
    · contradiction

lemma runUpTo_done {σ α : Type} {work : Pool → σ → Progress σ α × Pool} {stage : σ} {result : α}
    (h : work p stage = (.done result, p')) (fuel : Nat) :
    runUpTo work (fuel + 1) p stage = (some result, p'.tick) := by
  rw [runUpTo, move, h]

lemma runUpTo_next {σ α : Type} {work : Pool → σ → Progress σ α × Pool} {stage stage' : σ}
    (h : work p stage = (.next stage', p')) (fuel : Nat) :
    runUpTo work (fuel + 1) p stage = runUpTo work fuel p'.tick stage' := by
  rw [runUpTo, move, h]

lemma work_of_move_finished {σ α : Type} {work : Pool → σ → Progress σ α × Pool} {stage : σ}
    {result : α} (h : move work p stage = .finished result p') :
    ∃ after, work p stage = (.done result, after) ∧ p' = after.tick := by
  simp only [move] at h
  split at h
  · next after hwork =>
    obtain ⟨rfl, rfl⟩ := Move.finished.inj h
    exact ⟨after, hwork, rfl⟩
  · contradiction
  · split at h <;> contradiction

lemma work_of_move_resting {σ α : Type} {work : Pool → σ → Progress σ α × Pool} {stage : σ}
    {wake : Option Nat} (h : move work p stage = .resting wake p') :
    ∃ wake', work p stage = (.wait wake', p') := by
  simp only [move] at h
  split at h
  · contradiction
  · contradiction
  · next wake' after hwork =>
    split at h
    · contradiction
    · obtain ⟨-, rfl⟩ := Move.resting.inj h
      exact ⟨wake', hwork⟩

/-- Whoever waits for work sees it go on as it can, beside the turns of the tasks and the clocks,
and in the end its last turn. -/
lemma course_of_runUpTo {σ α : Type} {work : Pool → σ → Progress σ α × Pool}
    {Goes : σ × Pool → σ × Pool → Prop}
    (own : ∀ {stage stage' p p'}, work p stage = (.next stage', p') → Goes (stage, p) (stage', p'))
    (waits : ∀ {stage wake p p'}, work p stage = (.wait wake, p') → Goes (stage, p) (stage, p'))
    (turn : ∀ {stage p task}, task ∈ p.tasks → Goes (stage, p) (stage, p.turn task))
    (tick : ∀ stage p, Goes (stage, p) (stage, p.tick))
    (wakes : ∀ stage p instant, Goes (stage, p) (stage, p.wakeAt instant))
    {fuel : Nat} {stage : σ} {result : α} (h : runUpTo work fuel p stage = (some result, p')) :
    ∃ stage' q q', Relation.ReflTransGen Goes (stage, p) (stage', q) ∧
      work q stage' = (.done result, q') ∧ p' = q'.tick := by
  induction fuel generalizing p stage with
  | zero => exact absurd (congrArg Prod.fst h) (by simp [runUpTo])
  | succ fuel ih =>
    rw [runUpTo] at h
    split at h
    · next r q hmove =>
      obtain ⟨hresult, rfl⟩ := Prod.mk.inj h
      obtain rfl := Option.some.inj hresult
      obtain ⟨after, hdone, hq⟩ := work_of_move_finished hmove
      exact ⟨stage, p, after, .refl, hdone, hq⟩
    · next stage' q hmove =>
      obtain ⟨last, q₁, q₂, hlater, hdone⟩ := ih h
      refine ⟨last, q₁, q₂, .trans ?_ hlater, hdone⟩
      rcases exists_turn_of_move hmove with ⟨after, hown, rfl⟩ | ⟨rfl, wake, after, hwait, hturn⟩
      · exact .tail (.single (own hown)) (tick ..)
      · obtain ⟨task, htask, rfl⟩ := hturn
        exact .tail (.tail (.single (waits hwait)) (turn htask)) (tick ..)
    · next instant q hmove =>
      obtain ⟨last, q₁, q₂, hlater, hdone⟩ := ih h
      obtain ⟨wake, hwait⟩ := work_of_move_resting hmove
      exact ⟨last, q₁, q₂, .trans (.tail (.single (waits hwait)) (wakes ..)) hlater, hdone⟩
    · exact absurd (congrArg Prod.fst h) (by simp)

/-! ### What a step leaves alone -/

/-- Nothing was launched or ended, and nothing came under management. -/
structure SameLists (p p' : Pool) : Prop where
  /-- The tasks. -/
  tasks : p'.tasks = p.tasks
  /-- How the others ended. -/
  results : p'.results = p.results
  /-- The number of the next task. -/
  nextTask : p'.nextTask = p.nextTask
  /-- How many brokers there are. -/
  brokers : p'.brokers.length = p.brokers.length
  /-- How many supervisors there are. -/
  supervisors : p'.supervisors.length = p.supervisors.length
  /-- How many agent servers there are. -/
  agents : p'.agents.length = p.agents.length

lemma SameLists.refl (p : Pool) : SameLists p p :=
  ⟨rfl, rfl, rfl, rfl, rfl, rfl⟩

lemma sameLists_stepBroker {σ : Type} (p : Pool) (id : Nat)
    (step : BrokerManager → Progress σ (Outcome Error Unit) × Host × BrokerManager) :
    SameLists p (p.stepBroker id step).2 := by
  unfold stepBroker
  split
  · exact .refl p
  · exact ⟨rfl, rfl, rfl, List.length_set, rfl, rfl⟩

lemma sameLists_stepAdapter {σ : Type} (p : Pool) (id : Nat)
    (step : RegistrationAdapter → Progress σ (Outcome Error Unit) × Host × RegistrationAdapter) :
    SameLists p (p.stepAdapter id step).2 := by
  unfold stepAdapter
  split
  · exact .refl p
  · exact ⟨rfl, rfl, rfl, rfl, rfl, rfl⟩

lemma sameLists_stepActivity (p : Pool) (t : StopToken) (a : Activity) :
    SameLists p (p.stepActivity t a).2 := by
  cases a with
  | cancelling target wake =>
    simp only [stepActivity]
    split
    · exact ⟨rfl, rfl, rfl, rfl, rfl, rfl⟩
    · exact .refl p
  | copying run => exact ⟨rfl, rfl, rfl, rfl, rfl, rfl⟩
  | supervised id job stage =>
    simp only [stepActivity]
    split
    · exact .refl p
    · exact ⟨rfl, rfl, rfl, rfl, List.length_set, rfl⟩
  | broker id stage => exact sameLists_stepBroker p id fun m => m.runStep p.host t stage
  | provisioning id spec stage =>
    exact sameLists_stepBroker p id fun m => m.provisionStep p.host t spec stage
  | receiving id => exact sameLists_stepAdapter p id fun a => a.receiveStep p.host t
  | working id => exact sameLists_stepAdapter p id fun a => a.workStep p.host t
  | serving id stage =>
    simp only [stepActivity]
    split
    · exact .refl p
    · exact ⟨rfl, rfl, rfl, rfl, rfl, List.length_set⟩
  | refreshing interval o paths stage => exact ⟨rfl, rfl, rfl, rfl, rfl, rfl⟩

/-! ### What a step goes on with -/

lemma stepActivity_next (h : (p.stepActivity t a).1 = .next a') : a.Continues a' := by
  cases a with
  | cancelling target wake =>
    simp only [stepActivity] at h
    split at h <;> contradiction
  | copying run =>
    obtain ⟨run', -, rfl⟩ := Progress.inside_eq_next h
    exact .copying run run'
  | supervised id job stage =>
    simp only [stepActivity] at h
    split at h
    · contradiction
    · obtain ⟨stage', -, rfl⟩ := Progress.inside_eq_next h
      exact .supervised id job stage stage'
  | broker id stage =>
    obtain ⟨stage', -, rfl⟩ := Progress.inside_eq_next h
    exact .broker id stage stage'
  | provisioning id spec stage =>
    obtain ⟨stage', -, rfl⟩ := Progress.inside_eq_next h
    exact .provisioning id spec stage stage'
  | receiving id =>
    obtain ⟨_, -, rfl⟩ := Progress.inside_eq_next h
    exact .receiving id
  | working id =>
    obtain ⟨_, -, rfl⟩ := Progress.inside_eq_next h
    exact .working id
  | serving id stage =>
    simp only [stepActivity] at h
    split at h
    · contradiction
    · obtain ⟨stage', -, rfl⟩ := Progress.inside_eq_next h
      exact .serving id stage stage'
  | refreshing interval o paths stage =>
    obtain ⟨stage', -, rfl⟩ := Progress.inside_eq_next h
    exact .refreshing interval o paths stage stage'

lemma mem_tasks_turn {task new : Task} (htask : task ∈ p.tasks) (hnew : new ∈ (p.turn task).tasks) :
    ∃ old ∈ p.tasks, old.id = new.id ∧ old.activity.work = new.activity.work := by
  have hsame := sameLists_stepActivity p task.token task.activity
  unfold turn at hnew
  split at hnew
  · next activity after hstep =>
    rw [hstep] at hsame
    obtain ⟨old, hold, rfl⟩ := List.mem_map.1 hnew
    rw [hsame.tasks] at hold
    by_cases hid : old.id = task.id
    · -- what the task goes on with is what it was there for
      refine ⟨task, htask, ?_⟩
      rw [if_pos (beq_iff_eq.2 hid)]
      exact ⟨hid.symm, (stepActivity_next (congrArg Prod.fst hstep)).work_eq.symm⟩
    · refine ⟨old, hold, ?_⟩
      rw [if_neg (by simpa using hid)]
      exact ⟨rfl, rfl⟩
  · next result after hstep =>
    rw [hstep] at hsame
    have hold := (List.mem_filter.1 hnew).1
    rw [hsame.tasks] at hold
    exact ⟨new, hold, rfl, rfl⟩
  · exact ⟨new, hnew, rfl, rfl⟩

lemma length_brokers_turn (p : Pool) (task : Task) :
    (p.turn task).brokers.length = p.brokers.length := by
  have hsame := sameLists_stepActivity p task.token task.activity
  unfold turn
  split
  · next hstep =>
    rw [hstep] at hsame
    exact hsame.brokers
  · next hstep =>
    rw [hstep] at hsame
    exact hsame.brokers
  · rfl

lemma length_supervisors_turn (p : Pool) (task : Task) :
    (p.turn task).supervisors.length = p.supervisors.length := by
  have hsame := sameLists_stepActivity p task.token task.activity
  unfold turn
  split
  · next hstep =>
    rw [hstep] at hsame
    exact hsame.supervisors
  · next hstep =>
    rw [hstep] at hsame
    exact hsame.supervisors
  · rfl

end Pool

/-! ### The wait for a broker -/

namespace BrokerManager

variable {m : BrokerManager} {h : Host} {t : StopToken} {stage : WaitStage}

/-- Only who asks is told that the broker accepts connections, and only when it does. -/
lemma waitStep_ok (hdone : (m.waitStep h t stage).1 = .done (.ok ())) :
    stage = .asking ∧ m.isReady h.uptime = true := by
  cases stage with
  | entering => contradiction
  | asking =>
    refine ⟨rfl, ?_⟩
    by_contra hready
    rw [waitStep, if_neg hready] at hdone
    contradiction
  | pausing wake =>
    simp only [waitStep] at hdone
    split at hdone
    · exact absurd (Progress.done.inj hdone) (by simp)
    · contradiction
    · contradiction

/-- The wait fails only when it is cancelled. -/
lemma waitStep_error {e : Error} (hdone : (m.waitStep h t stage).1 = .done (.error e)) :
    h.isCancelled t = true ∧ e = .ready "shutdown requested" := by
  cases stage with
  | entering => contradiction
  | asking =>
    simp only [waitStep] at hdone
    split at hdone
    · exact absurd (Progress.done.inj hdone) (by simp)
    · contradiction
  | pausing wake =>
    simp only [waitStep] at hdone
    split at hdone
    · next hcut =>
      exact ⟨Host.isCancelled_of_pause hcut, (Except.error.inj (Progress.done.inj hdone)).symm⟩
    · contradiction
    · contradiction

end BrokerManager

namespace Pool

variable {p p' : Pool} {t : StopToken} {id : Nat} {g : Group} {spec : TopologySpec}
  {stage : BrokerManager.WaitStage}

lemma waitStep_eq {m : BrokerManager} (hm : p.brokers[id]? = some m) (t : StopToken)
    (stage : BrokerManager.WaitStage) :
    p.waitStep t id stage = ((m.waitStep p.host t stage).1,
      { p with brokers := p.brokers.set id (m.waitStep p.host t stage).2 }) := by
  simp only [waitStep, hm]

lemma readyStep_ok (hid : id < p.brokers.length)
    (h : p.readyStep g t id spec stage = (.done (.ok ()), p')) :
    stage = .asking ∧ ∃ m, p.brokers[id]? = some m ∧ m.isReady p.host.uptime = true := by
  have hm : p.brokers[id]? = some p.brokers[id] := List.getElem?_eq_getElem hid
  have hdone : (p.waitStep t id stage).1 = .done (.ok ()) := by
    unfold readyStep at h
    split at h
    · next hwait => rw [hwait]
    · rw [h]
  rw [waitStep_eq hm] at hdone
  obtain ⟨rfl, hready⟩ := BrokerManager.waitStep_ok hdone
  exact ⟨rfl, _, hm, hready⟩

lemma readyStep_error {e : Error} (h : p.readyStep g t id spec stage = (.done (.error e), p')) :
    p.host.isCancelled t = true ∧ e = .ready "shutdown requested" := by
  unfold readyStep at h
  split at h
  · exact absurd (congrArg Prod.fst h) (by simp)
  · rcases hm : p.brokers[id]? with _ | m
    · simp only [waitStep, hm] at h
      exact absurd (congrArg Prod.fst h) (by simp)
    · rw [waitStep_eq hm] at h
      exact BrokerManager.waitStep_error (congrArg Prod.fst h)

/-! ### What cannot be launched -/

lemma startReplication_error {role : Role} {topology : ReplicationTopology} {engine : Engine}
    {e : Error} (h : p.startReplication g t role topology engine = (.error e, p')) :
    Supervisor.start role topology = .error e := by
  unfold startReplication at h
  split at h
  · next hrefused =>
    obtain rfl := Except.error.inj (congrArg Prod.fst h)
    exact hrefused
  · exact absurd (congrArg Prod.fst h) (by simp)

lemma startServer_error {f : Framework} {config : ServerConfig} {inProcess notify : Bool}
    {e : Error} (h : p.startServer g t f config inProcess notify = (.error e, p')) :
    AgentServer.build f p.host config inProcess = .error e := by
  unfold startServer at h
  split at h
  · next hrefused =>
    obtain rfl := Except.error.inj (congrArg Prod.fst h)
    exact hrefused
  · exact absurd (congrArg Prod.fst h) (by simp)

end Pool

end EdgeNode
