import EdgeNode.Proofs.Pool.Launches
import EdgeNode.Proofs.Replication.Jobs
/-!
# Supervised jobs

The jobs of a supervisor run beside each other and record what becomes of them in one table, each
under its name.  A topology that is accepted gives no name twice, so every job has an entry of its
own: `Pool.Reports` says, for every job by itself, how the task that runs it, what its engine was
asked and has answered and what the supervisor knows of it fit together.  It holds when replication
has been started, and every turn of a task keeps it, whatever the others do in between.
-/

namespace EdgeNode

open Relation (ReflTransGen)

/-! ### The task of a job -/

/-- A task runs a job for a supervisor. -/
def Task.RunsJob (task : Task) (id : Nat) (j : ReplicationJob) : Prop :=
  ∃ stage, task.activity = .supervised id j stage

lemma Task.RunsJob.unique {task : Task} {id : Nat} {j k : ReplicationJob}
    (h : task.RunsJob id j) (h' : task.RunsJob id k) : j = k := by
  obtain ⟨stage, hstage⟩ := h
  obtain ⟨stage', hstage'⟩ := h'
  exact (Activity.supervised.inj (hstage.symm.trans hstage')).2.1

namespace Pool

variable {p p' : Pool} {task other : Task} {id : Nat} {j k : ReplicationJob}
  {stage : SupervisedJob} {stage? : Option SupervisedJob}

/-- At which stage the one task of a job is, or that there is none. -/
def InStage (p : Pool) (id : Nat) (j : ReplicationJob) : Option SupervisedJob → Prop
  | some stage => ∃ task ∈ p.tasks, task.activity = .supervised id j stage ∧
    ∀ other ∈ p.tasks, other.RunsJob id j → other = task
  | none => ∀ other ∈ p.tasks, ¬ other.RunsJob id j

/-- The calls that the turn of a task makes of its engine on behalf of a supervisor. -/
def engineCalls (p : Pool) (id : Nat) (task : Task) : List EngineCall :=
  match task.activity with
  | .supervised owner j (.pending e topology) =>
    if owner = id then [.begins j (.start e topology j p.host.uptime)] else []
  | .supervised owner j (.running run) =>
    if owner = id then
      match run.step p.host task.token with
      | (.done o, _) => [.returns j o]
      | _ => []
    else []
  | _ => []

lemma stepActivity_next_supervised {t : StopToken} {a : Activity}
    (h : (p.stepActivity t a).1 = .next (.supervised id j stage)) :
    ∃ stage', a = .supervised id j stage' := by
  cases stepActivity_next h with
  | supervised _ _ stage' => exact ⟨stage', rfl⟩

/-- Whoever runs a job has run it before. -/
lemma Turned.runsJob (h : p.Turned task p') (hs : p.Sound) (htask : task ∈ p.tasks)
    (hother : other ∈ p'.tasks) (hruns : other.RunsJob id j) :
    ∃ old ∈ p.tasks, old.id = other.id ∧ old.RunsJob id j := by
  cases h with
  | goesOn hstep =>
    rcases (mem_resume hs htask (sameLists_of_stepActivity hstep)).1 hother with rfl | ⟨hold, -⟩
    · obtain ⟨stage, rfl⟩ := hruns
      exact ⟨task, htask, rfl, stepActivity_next_supervised (congrArg Prod.fst hstep)⟩
    · exact ⟨other, hold, rfl, hruns⟩
  | ended hstep =>
    exact ⟨other, ((mem_retire (sameLists_of_stepActivity hstep)).1 hother).1, rfl, hruns⟩
  | waits hstep => exact ⟨other, hother, rfl, hruns⟩

/-- Turns of other tasks do not matter to a job. -/
lemma InStage.turned (h : p.InStage id j stage?) (hs : p.Sound) (htask : task ∈ p.tasks)
    (hturned : p.Turned task p') (hother : ¬ task.RunsJob id j) : p'.InStage id j stage? := by
  -- whoever runs the job afterwards is another task than the one whose turn it was
  have hback : ∀ other ∈ p'.tasks, other.RunsJob id j → other.id ≠ task.id ∧ other ∈ p.tasks := by
    intro other hmem hruns
    obtain ⟨old, hold, hid, hold'⟩ := hturned.runsJob hs htask hmem hruns
    have hne : other.id ≠ task.id := by
      intro hsame
      obtain rfl := hs.eq_of_id_eq hold htask (hid.trans hsame)
      exact hother hold'
    exact ⟨hne, (hturned.mem_of_ne hs htask hne).1 hmem⟩
  cases stage? with
  | none =>
    intro other hmem hruns
    exact h other (hback other hmem hruns).2 hruns
  | some stage =>
    obtain ⟨mine, hmine, hactivity, honly⟩ := h
    have hne : mine.id ≠ task.id := by
      intro hsame
      obtain rfl := hs.eq_of_id_eq hmine htask hsame
      exact hother ⟨stage, hactivity⟩
    refine ⟨mine, (hturned.mem_of_ne hs htask hne).2 hmine, hactivity, ?_⟩
    intro other hmem hruns
    exact honly other (hback other hmem hruns).2 hruns

/-- Nor does what is launched beside it. -/
lemma InStage.extended (h : p.InStage id j stage?) (hextends : p.Extends p')
    (hid : id < p.supervisors.length) : p'.InStage id j stage? := by
  have hback : ∀ other ∈ p'.tasks, other.RunsJob id j → other ∈ p.tasks := by
    rintro other hmem ⟨stage, hactivity⟩
    rcases hextends.mem_or_le hmem with hold | ⟨-, -, hsupervised⟩
    · exact hold
    · have hle := (hsupervised id (by rw [hactivity]; rfl)).1
      exact absurd hid (Nat.not_lt.2 hle)
  cases stage? with
  | none => exact fun other hmem hruns => h other (hback other hmem hruns) hruns
  | some stage =>
    obtain ⟨mine, hmine, hactivity, honly⟩ := h
    exact ⟨mine, hextends.mem hmine, hactivity,
      fun other hmem hruns => honly other (hback other hmem hruns) hruns⟩

/-! ### The turn of a task -/

/-- Only its own tasks work on a supervisor. -/
lemma supervisor_stepActivity {t : StopToken} {a : Activity}
    {progress : Progress Activity (Outcome Error Unit)} {q : Pool}
    (h : p.stepActivity t a = (progress, q)) (hnot : ∀ j stage, a ≠ .supervised id j stage) :
    q.supervisors[id]? = p.supervisors[id]? := by
  obtain rfl : (p.stepActivity t a).2 = q := congrArg Prod.snd h
  cases a with
  | cancelling target wake =>
    simp only [stepActivity]
    split <;> rfl
  | copying run => rfl
  | supervised owner j stage =>
    have hne : owner ≠ id := fun hsame => hnot j stage (by rw [hsame])
    simp only [stepActivity]
    split
    · rfl
    · exact List.getElem?_set_ne hne
  | broker owner stage | provisioning owner spec stage =>
    simp only [stepActivity, stepBroker]
    split <;> rfl
  | receiving owner | working owner =>
    simp only [stepActivity, stepAdapter]
    split <;> rfl
  | serving owner stage =>
    simp only [stepActivity]
    split <;> rfl
  | refreshing interval o paths stage => rfl

lemma Turned.supervisor_eq (h : p.Turned task p') (hnot : ∀ j, ¬ task.RunsJob id j) :
    p'.supervisors[id]? = p.supervisors[id]? := by
  have hactivity : ∀ j stage, task.activity ≠ .supervised id j stage :=
    fun j stage hactivity => hnot j ⟨stage, hactivity⟩
  cases h with
  | goesOn hstep | ended hstep =>
    have hsame := supervisor_stepActivity hstep hactivity
    exact hsame
  | waits hstep => rfl

lemma engineCalls_of_not_runsJob (hnot : ∀ j, ¬ task.RunsJob id j) : p.engineCalls id task = [] := by
  unfold engineCalls
  split
  · next owner j e topology hactivity =>
    rw [if_neg]
    rintro rfl
    exact hnot j ⟨_, hactivity⟩
  · next owner j run hactivity =>
    rw [if_neg]
    rintro rfl
    exact hnot j ⟨_, hactivity⟩
  · rfl

/-- The stages of a job when the one task that runs it has gone on. -/
lemma inStage_resume {q : Pool} (hs : p.Sound) (htask : task ∈ p.tasks) (hsame : SameLists p q)
    (honly : ∀ other ∈ p.tasks, other.RunsJob id j → other = task) :
    (q.resume task.id (.supervised id j stage)).InStage id j (some stage) := by
  refine ⟨{ task with activity := .supervised id j stage },
    (mem_resume hs htask hsame).2 (.inl rfl), rfl, ?_⟩
  intro other hother hruns
  rcases (mem_resume hs htask hsame).1 hother with rfl | ⟨hold, hne⟩
  · rfl
  · exact absurd (congrArg Task.id (honly other hold hruns)) hne

lemma inStage_retire {q : Pool} {o : Outcome Error Unit} (hsame : SameLists p q)
    (honly : ∀ other ∈ p.tasks, other.RunsJob id j → other = task) :
    (q.retire task.id o).InStage id j none := by
  intro other hother hruns
  obtain ⟨hold, hne⟩ := (mem_retire hsame).1 hother
  exact hne (congrArg Task.id (honly other hold hruns))

/-- The turn of the task of a job is a step of the job. -/
lemma Turned.jobStep {s : Supervisor} (h : p.Turned task p') (hs : p.Sound)
    (htask : task ∈ p.tasks) (hactivity : task.activity = .supervised id j stage)
    (honly : ∀ other ∈ p.tasks, other.RunsJob id j → other = task)
    (hsupervisor : p.supervisors[id]? = some s) :
    ∃ stage? recorded?,
      SupervisedJob.Step p.host task.token j stage stage? (p.engineCalls id task) recorded? ∧
      p'.supervisors[id]? = some (s.after j.name recorded?) ∧ p'.InStage id j stage? := by
  have hlt : id < p.supervisors.length := (List.getElem?_eq_some_iff.1 hsupervisor).1
  have hstep : p.stepActivity task.token task.activity
      = ((stage.step p.host task.token s j).1.inside (.supervised id j),
        { p with
          host := (stage.step p.host task.token s j).2.1
          supervisors := p.supervisors.set id (stage.step p.host task.token s j).2.2 }) := by
    rw [hactivity]
    simp only [stepActivity, hsupervisor]
  have hsame := sameLists_of_stepActivity hstep
  cases stage with
  | pending e topology =>
    have hcalls : p.engineCalls id task = [.begins j (.start e topology j p.host.uptime)] := by
      simp only [engineCalls, hactivity, if_true]
    obtain rfl := h.eq_resume hstep
    rw [hcalls]
    exact ⟨_, _, .begins, List.getElem?_set_self hlt, inStage_resume hs htask hsame honly⟩
  | running run =>
    have hcalls : p.engineCalls id task = match run.step p.host task.token with
        | (.done o, _) => [.returns j o]
        | _ => [] := by
      simp only [engineCalls, hactivity, if_true]
    rw [SupervisedJob.step] at hstep hsame
    rcases hrun : run.step p.host task.token with ⟨run' | wake | o, host⟩
    · rw [hrun] at hcalls hstep hsame
      obtain rfl := h.eq_resume hstep
      rw [hcalls]
      exact ⟨_, _, .goesOn hrun, List.getElem?_set_self hlt,
        inStage_resume hs htask hsame honly⟩
    · rw [hrun] at hcalls hstep
      obtain rfl := h.eq_self hstep
      rw [hcalls]
      exact ⟨_, _, .waits, hsupervisor, task, htask, hactivity, honly⟩
    · rw [hrun] at hcalls hstep hsame
      obtain rfl := h.eq_retire hstep
      rw [hcalls]
      exact ⟨_, _, .returns hrun, List.getElem?_set_self hlt, inStage_retire hsame honly⟩

/-! ### All jobs of a supervisor -/

/-- The calls about a job. -/
def callsAbout (j : ReplicationJob) (log : List EngineCall) : List EngineCall :=
  log.filter fun call => call.job = j

lemma callsAbout_append_of_ne {log new : List EngineCall} (hnew : ∀ call ∈ new, call.job = j)
    (hne : j ≠ k) : callsAbout k (log ++ new) = callsAbout k log := by
  have hnone : callsAbout k new = [] := by
    refine List.filter_eq_nil_iff.2 fun call hcall => ?_
    simpa [hnew call hcall] using hne
  rw [callsAbout, List.filter_append, ← callsAbout, ← callsAbout, hnone, List.append_nil]

lemma callsAbout_append_self {log new : List EngineCall} (hnew : ∀ call ∈ new, call.job = j) :
    callsAbout j (log ++ new) = callsAbout j log ++ new := by
  have hall : callsAbout j new = new :=
    List.filter_eq_self.2 fun call hcall => by simpa using hnew call hcall
  rw [callsAbout, List.filter_append, ← callsAbout, ← callsAbout, hall]

/-- What a supervisor reports fits what was done for it: it has one entry for every job, and every
job stands as its entry, its task and the calls of its engine say. -/
structure Reports (p : Pool) (log : List EngineCall) (e : Engine) (topology : ReplicationTopology)
    (id : Nat) (s : Supervisor) : Prop where
  there : p.supervisors[id]? = some s
  sorted : s.states.Sorted
  keys : s.states.keys = (Supervisor.ofJobs topology.jobs).states.keys
  jobs : ∀ j ∈ topology.jobs, ∃ stage? state, s.states.get? j.name = some state ∧
    p.InStage id j stage? ∧ JobStands e topology j stage? (callsAbout j log) state
  owned : ∀ task ∈ p.tasks, ∀ j, task.RunsJob id j → j ∈ topology.jobs
  logged : ∀ call ∈ log, call.job ∈ topology.jobs

namespace Reports

variable {log : List EngineCall} {e : Engine} {topology : ReplicationTopology} {s : Supervisor}

lemma extended (h : p.Reports log e topology id s) (hextends : p.Extends p') :
    p'.Reports log e topology id s := by
  have hid : id < p.supervisors.length := (List.getElem?_eq_some_iff.1 h.there).1
  refine { h with there := hextends.supervisor h.there, jobs := ?_, owned := ?_ }
  · intro j hj
    obtain ⟨stage?, state, hstate, hstage, hstands⟩ := h.jobs j hj
    exact ⟨stage?, state, hstate, hstage.extended hextends hid, hstands⟩
  · rintro task htask j ⟨stage, hactivity⟩
    rcases hextends.mem_or_le htask with hold | ⟨-, -, hsupervised⟩
    · exact h.owned task hold j ⟨stage, hactivity⟩
    · have hle := (hsupervised id (by rw [hactivity]; rfl)).1
      exact absurd hid (Nat.not_lt.2 hle)

/-- The turn of a task that runs no job for the supervisor. -/
lemma turned_other (h : p.Reports log e topology id s) (hs : p.Sound) (htask : task ∈ p.tasks)
    (hturned : p.Turned task p') (hnot : ∀ j, ¬ task.RunsJob id j) :
    p'.Reports log e topology id s := by
  refine { h with there := (hturned.supervisor_eq hnot).trans h.there, jobs := ?_, owned := ?_ }
  · intro j hj
    obtain ⟨stage?, state, hstate, hstage, hstands⟩ := h.jobs j hj
    exact ⟨stage?, state, hstate, hstage.turned hs htask hturned (hnot j), hstands⟩
  · intro other hother j hruns
    obtain ⟨old, hold, -, hold'⟩ := hturned.runsJob hs htask hother hruns
    exact h.owned old hold j hold'

/-- The turn of a task that runs a job: that job takes a step, and nothing happens to the others. -/
lemma turned_own (h : p.Reports log e topology id s) (hs : p.Sound) (htask : task ∈ p.tasks)
    (hturned : p.Turned task p') (hruns : task.RunsJob id j)
    (hnames : (topology.jobs.map ReplicationJob.name).Nodup) :
    j ∈ topology.jobs ∧ ∃ recorded?,
      (∀ state' ∈ recorded?, ∃ state, s.states.get? j.name = some state ∧ state.Advances state') ∧
      p'.Reports (log ++ p.engineCalls id task) e topology id (s.after j.name recorded?) := by
  have hj := h.owned task htask j hruns
  obtain ⟨stage?, state, hstate, hstage, hstands⟩ := h.jobs j hj
  obtain ⟨stage, hactivity⟩ := hruns
  -- the task is the one that runs the job
  cases stage? with
  | none => exact absurd ⟨stage, hactivity⟩ (hstage task htask)
  | some current =>
    obtain ⟨mine, hmine, hmineActivity, honly⟩ := hstage
    obtain rfl := honly task htask ⟨stage, hactivity⟩
    obtain rfl : stage = current :=
      (Activity.supervised.inj (hactivity.symm.trans hmineActivity)).2.2
    obtain ⟨stage?', recorded?, hstep, hthere, hstage'⟩ :=
      hturned.jobStep hs htask hactivity honly h.there
    have hcalls := hstep.job_eq
    have hhas : s.states.has j.name := by
      rw [Keyed.has, hstate]
      rfl
    refine ⟨hj, recorded?, fun state' hstate' => ⟨state, hstate, hstands.advances hstep _ hstate'⟩,
      hthere, Supervisor.sorted_after h.sorted _ _,
      (Supervisor.keys_after h.sorted hhas _).trans h.keys, ?_, ?_, ?_⟩
    · intro k hk
      by_cases hsame : j = k
      · subst hsame
        refine ⟨stage?', _, Supervisor.get?_after_self hstate _, hstage', ?_⟩
        rw [callsAbout_append_self hcalls]
        exact hstands.step hstep
      · have hname : j.name ≠ k.name := fun hname =>
          hsame (List.inj_on_of_nodup_map hnames hj hk hname)
        obtain ⟨other?, state', hstate', hother, hstands'⟩ := h.jobs k hk
        refine ⟨other?, state', ?_, hother.turned hs htask hturned ?_, ?_⟩
        · rw [Supervisor.get?_after_of_ne hname, hstate']
        · exact fun hruns => hsame (Task.RunsJob.unique ⟨stage, hactivity⟩ hruns)
        · rw [callsAbout_append_of_ne hcalls hsame]
          exact hstands'
    · intro other hother k hruns
      obtain ⟨old, hold, -, hold'⟩ := hturned.runsJob hs htask hother hruns
      exact h.owned old hold k hold'
    · intro call hcall
      rcases List.mem_append.1 hcall with hold | hnew
      · exact h.logged call hold
      · exact hcalls call hnew ▸ hj

/-- The supervisor is settled just when every job has ended. -/
lemma isSettled_iff (h : p.Reports log e topology id s) :
    s.isSettled ↔ ∀ j ∈ topology.jobs, ∃ state, s.states.get? j.name = some state ∧
      state.isTerminal := by
  rw [Supervisor.isSettled, List.all_eq_true]
  constructor
  · intro hall j hj
    obtain ⟨-, state, hstate, -, -⟩ := h.jobs j hj
    have hmem : (j.name, state) ∈ s.states := (Keyed.Sorted.mem_iff h.sorted).2 hstate
    exact ⟨state, hstate, hall state (List.mem_map_of_mem hmem)⟩
  · intro hall state hstate
    obtain ⟨⟨name, _⟩, hmem, rfl⟩ := List.mem_map.1 hstate
    have hkey : name ∈ s.states.keys := List.mem_map_of_mem hmem
    rw [h.keys, Supervisor.mem_keys_ofJobs] at hkey
    obtain ⟨j, hj, rfl⟩ := hkey
    obtain ⟨state', hstate', hterminal⟩ := hall j hj
    obtain rfl := Option.some.inj (((Keyed.Sorted.mem_iff h.sorted).1 hmem).symm.trans hstate')
    exact hterminal

end Reports

/-! ### From the start on -/

/-- A step in the course of supervision: a turn of some task, with the calls that it makes of its
engine, or something that others do. -/
inductive Supervising (id : Nat) : Pool × List EngineCall → Pool × List EngineCall → Prop
  | turn {p : Pool} {log : List EngineCall} {task : Task} (htask : task ∈ p.tasks) :
    Supervising id (p, log) (p.turn task, log ++ p.engineCalls id task)
  | others {p p' : Pool} {log : List EngineCall} (h : p.Extends p') :
    Supervising id (p, log) (p', log)

section

variable {log : List EngineCall} {e : Engine} {topology : ReplicationTopology} {s : Supervisor}
  {w w' : Pool × List EngineCall}

/-- The turn of a task records nothing, or the next state of the job that it runs. -/
def Records (topology : ReplicationTopology) (id : Nat) (task : Task) (s s' : Supervisor) : Prop :=
  s' = s ∨ ∃ j ∈ topology.jobs, task.RunsJob id j ∧ ∃ state state',
    s.states.get? j.name = some state ∧ state.Advances state' ∧ s' = s.record j.name state'

lemma Reports.turn (h : p.Reports log e topology id s) (hs : p.Sound)
    (hnames : (topology.jobs.map ReplicationJob.name).Nodup) (htask : task ∈ p.tasks) :
    ∃ s', (p.turn task).Reports (log ++ p.engineCalls id task) e topology id s' ∧
      Records topology id task s s' := by
  have hturned := p.turned task
  by_cases hruns : ∃ j, task.RunsJob id j
  · obtain ⟨j, hruns⟩ := hruns
    obtain ⟨hj, recorded?, hadvances, hreports⟩ := h.turned_own hs htask hturned hruns hnames
    refine ⟨_, hreports, ?_⟩
    cases recorded? with
    | none => exact .inl rfl
    | some state' =>
      obtain ⟨state, hstate, hadvance⟩ := hadvances state' rfl
      exact .inr ⟨j, hj, hruns, state, state', hstate, hadvance, rfl⟩
  · have hnot : ∀ j, ¬ task.RunsJob id j := not_exists.1 hruns
    rw [engineCalls_of_not_runsJob hnot, List.append_nil]
    exact ⟨s, h.turned_other hs htask hturned hnot, .inl rfl⟩

/-- Whatever happens, every job goes on to stand as the supervisor reports. -/
lemma Reports.course (h : w.1.Reports w.2 e topology id s) (hs : w.1.Sound)
    (hnames : (topology.jobs.map ReplicationJob.name).Nodup)
    (hcourse : ReflTransGen (Supervising id) w w') :
    w'.1.Sound ∧ ∃ s', w'.1.Reports w'.2 e topology id s' := by
  induction hcourse with
  | refl => exact ⟨hs, s, h⟩
  | tail _ hstep ih =>
    obtain ⟨hs, s, h⟩ := ih
    cases hstep with
    | turn htask =>
      obtain ⟨s', hreports, -⟩ := h.turn hs hnames htask
      exact ⟨hs.turn htask, s', hreports⟩
    | others hextends => exact ⟨hs.extended hextends, s, h.extended hextends⟩

/-- Every job stands at its beginning when replication has been started. -/
lemma reports_launched (hs : p.Sound) (g : Group) (t : StopToken)
    (hnames : (topology.jobs.map ReplicationJob.name).Nodup) :
    Reports
      { p with
        tasks := p.tasks ++ jobTasks p.nextTask g t e topology p.supervisors.length topology.jobs
        nextTask := p.nextTask + topology.jobs.length
        supervisors := p.supervisors ++ [Supervisor.ofJobs topology.jobs] }
      [] e topology p.supervisors.length (Supervisor.ofJobs topology.jobs) := by
  have hnew : ∀ task ∈ p.tasks ++ jobTasks p.nextTask g t e topology p.supervisors.length
      topology.jobs, ∀ j, task.RunsJob p.supervisors.length j →
      task ∈ jobTasks p.nextTask g t e topology p.supervisors.length topology.jobs := by
    rintro task htask j ⟨stage, hactivity⟩
    rcases List.mem_append.1 htask with hold | hnew
    · -- whoever was there before works for an earlier supervisor
      have hlt := hs.supervised task hold p.supervisors.length (by rw [hactivity]; rfl)
      exact absurd hlt (Nat.lt_irrefl _)
    · exact hnew
  refine ⟨List.getElem?_concat_length, Supervisor.sorted_ofJobs _, rfl, ?_, ?_, by simp⟩
  · intro j hj
    obtain ⟨i, hi, rfl⟩ := List.mem_iff_getElem.1 hj
    refine ⟨some (.pending e topology), .pending, ?_, ?_, .pending⟩
    · rw [Supervisor.get?_ofJobs, if_pos (List.mem_map_of_mem hj)]
    · refine ⟨_, List.mem_append_right _ (mem_jobTasks.2 ⟨i, hi, rfl⟩), rfl, ?_⟩
      intro other hother hruns
      obtain ⟨i', hi', rfl⟩ := mem_jobTasks.1 (hnew other hother _ hruns)
      have hjob : topology.jobs[i'] = topology.jobs[i] :=
        Task.RunsJob.unique ⟨_, rfl⟩ hruns
      obtain rfl : i' = i := (List.Nodup.of_map _ hnames).getElem_inj_iff.1 hjob
      rfl
  · intro task htask j hruns
    obtain ⟨i, hi, rfl⟩ := mem_jobTasks.1 (hnew task htask j hruns)
    obtain rfl : topology.jobs[i] = j := Task.RunsJob.unique ⟨_, rfl⟩ hruns
    exact List.getElem_mem hi

/-- What a supervisor shows of the jobs of a topology at a moment, and what can happen to that
next. -/
structure Supervised (e : Engine) (topology : ReplicationTopology) (id : Nat)
    (w : Pool × List EngineCall) (s : Supervisor) : Prop where
  there : w.1.supervisors[id]? = some s
  keys : s.states.keys = (Supervisor.ofJobs topology.jobs).states.keys
  key_iff : ∀ name, name ∈ s.states.keys ↔ ∃ j ∈ topology.jobs, j.name = name
  jobs : ∀ j ∈ topology.jobs, ∃ stage? state, s.states.get? j.name = some state ∧
    w.1.InStage id j stage? ∧ JobStands e topology j stage? (callsAbout j w.2) state ∧
    (state = .stopped ↔ .returns j (.ok ()) ∈ w.2) ∧
    ((∃ reason, state = .failed reason) ↔ ∃ o, o ≠ .ok () ∧ .returns j o ∈ w.2)
  logged : ∀ call ∈ w.2, call.job ∈ topology.jobs
  settled_iff : s.isSettled ↔ ∀ j ∈ topology.jobs, ∃ state,
    s.states.get? j.name = some state ∧ state.isTerminal
  turn : ∀ task ∈ w.1.tasks, ∃ s', (w.1.turn task).supervisors[id]? = some s' ∧
    Records topology id task s s'
  others : ∀ p', w.1.Extends p' → p'.supervisors[id]? = some s

lemma returns_mem_callsAbout {o : Outcome Error Unit} :
    .returns j o ∈ callsAbout j log ↔ .returns j o ∈ log := by
  simp [callsAbout, EngineCall.job]

lemma Reports.supervised (h : w.1.Reports w.2 e topology id s) (hs : w.1.Sound)
    (hnames : (topology.jobs.map ReplicationJob.name).Nodup) :
    Supervised e topology id w s where
  there := h.there
  keys := h.keys
  key_iff name := by rw [h.keys, Supervisor.mem_keys_ofJobs]
  jobs j hj := by
    obtain ⟨stage?, state, hstate, hstage, hstands⟩ := h.jobs j hj
    refine ⟨stage?, state, hstate, hstage, hstands, ?_, ?_⟩
    · rw [hstands.stopped_iff, returns_mem_callsAbout]
    · simp only [hstands.failed_iff, returns_mem_callsAbout]
  logged := h.logged
  settled_iff := h.isSettled_iff
  turn task htask := by
    obtain ⟨s', hreports, hrecords⟩ := h.turn hs hnames htask
    exact ⟨s', hreports.there, hrecords⟩
  others p' hextends := hextends.supervisor h.there

end

/-- **Jobs are supervised in isolation.**  Replication is refused, without any change, unless the
node leads and the topology is accepted.  Otherwise the supervisor has, at every moment from then on
and whatever the tasks and others do, one entry for every job: the engine is called once for the
job, with its own record, and the entry says whether that call is still to come, going on, or what
it has returned.  A turn of a task changes no entry but that of the job that it runs, and others
change none. -/
theorem jobs_supervised {start : Pool} (hstart : start.Sound) (g : Group) (t : StopToken)
    (role : Role) (topology : ReplicationTopology) (e : Engine) :
    (role ≠ .leader ∨ topology.validate ≠ .ok () →
      ∃ err, start.startReplication g t role topology e = (.error err, start)) ∧
    (role = .leader → topology.validate = .ok () → ∃ p,
      start.startReplication g t role topology e = (.ok start.supervisors.length, p) ∧
      ∀ w, ReflTransGen (Supervising start.supervisors.length) (p, []) w →
        ∃ s, Supervised e topology start.supervisors.length w s) := by
  have hcases := start.startReplication_cases g t role topology e
  constructor
  · intro hrefused
    rcases hcases with ⟨err, -, heq⟩ | ⟨s, hs, -⟩
    · exact ⟨err, heq⟩
    · -- a supervisor is only made for a leader whose topology is accepted
      rw [Supervisor.start] at hs
      split at hs
      · next hleader =>
        split at hs
        · contradiction
        · next hvalid =>
          have hrole : role = .leader := beq_iff_eq.1 hleader
          exact (hrefused.elim (absurd hrole) (absurd hvalid))
      · contradiction
  · rintro rfl hvalid
    have hnames := ReplicationTopology.nodup_of_validate hvalid
    have hmade : Supervisor.start .leader topology = .ok (.ofJobs topology.jobs) := by
      have hleads : Role.leader.isLeader = true := rfl
      rw [Supervisor.start, if_pos hleads, hvalid]
    rcases hcases with ⟨err, herr, -⟩ | ⟨s, hs, heq⟩
    · exact absurd (hmade.symm.trans herr) (by simp)
    · obtain rfl := Except.ok.inj (hmade.symm.trans hs)
      have hextends := Extends.startReplication start g t .leader topology e
      rw [heq] at hextends
      refine ⟨_, heq, fun w hcourse => ?_⟩
      obtain ⟨hsound, s, hreports⟩ :=
        (reports_launched hstart g t hnames).course (w := (_, [])) (hstart.extended hextends)
          hnames hcourse
      exact ⟨s, hreports.supervised hsound hnames⟩

/-- Two jobs on the embedded broker. -/
def pair : ReplicationTopology where
  name := "site"
  stateDirectory := "/state"
  credentials := ⟨"", "", ""⟩
  jobs := [.toBackend "A" "S" "S" "backend" none, .toBackend "B" "T" "T" "backend" none]

/-- The engine crashes on the one and copies the other until it is cancelled. -/
def crashing : Engine :=
  .scripted fun name => if name = "A" then .ends .zero .crash else .lasts

/-- Tasks have their turns, by number. -/
def turnsOf (id : Nat) : List TaskId → Pool × List EngineCall → Pool × List EngineCall
  | [], w => w
  | n :: rest, w =>
    match w.1.tasks.find? fun task => task.id == n with
    | none => w
    | some task => turnsOf id rest (w.1.turn task, w.2 ++ w.1.engineCalls id task)

lemma supervising_turnsOf (id : Nat) (turns : List TaskId) (w : Pool × List EngineCall) :
    ReflTransGen (Supervising id) w (turnsOf id turns w) := by
  induction turns generalizing w with
  | nil => exact .refl
  | cons n rest ih =>
    rw [turnsOf]
    split
    · exact .refl
    · next task hfind => exact .head (.turn (List.mem_of_find?_eq_some hfind)) (ih _)

/-- Both jobs have begun, and one of them has crashed. -/
def crashed : Pool × List EngineCall :=
  turnsOf 0 [0, 1, 0] (((({} : Pool).startReplication 0 0 .leader pair crashing).2), [])

/-- The other goes on. -/
theorem jobs_supervised_crashing :
    pair.validate = .ok () ∧ ∃ s, Supervised crashing pair 0 crashed s ∧
      s.states = [("A", .failed Supervisor.crashed), ("B", .running)] := by
  have hvalid : pair.validate = .ok () := by decide +kernel
  obtain ⟨p, hp, hcourse⟩ := (jobs_supervised Sound.empty 0 0 .leader pair crashing).2 rfl hvalid
  have hcrashed : ReflTransGen (Supervising 0) (p, []) crashed := by
    rw [crashed, hp]
    exact supervising_turnsOf ..
  obtain ⟨s, hs⟩ : ∃ s, Supervised crashing pair 0 crashed s := hcourse crashed hcrashed
  have hstates : crashed.1.supervisors[0]?.map Supervisor.states
      = some [("A", .failed Supervisor.crashed), ("B", .running)] := by decide +kernel
  rw [hs.there] at hstates
  exact ⟨hvalid, s, hs, Option.some.inj hstates⟩

end Pool

end EdgeNode
