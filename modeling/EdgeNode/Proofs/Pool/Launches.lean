import EdgeNode.Proofs.Pool.Changes
import EdgeNode.Proofs.Pool.Tasks
/-!
# Launching beside running tasks

Whoever is not a task of the pool changes it in one way only: by launching new tasks behind those
that are there.  `Pool.Extends` says so, and that what is cancelled stays cancelled, that no result
is changed, and that nobody interferes with a supervisor or an agent server that is there.  Every
launcher extends the pool.
-/

namespace EdgeNode

namespace Pool

variable {p p' p'' : Pool}

/-- The agent servers are there as they were built. -/
def KeepsAgents (p p' : Pool) : Prop :=
  ∀ (id : Nat) (a : AgentServer), p.agents[id]? = some a →
    ∃ a', p'.agents[id]? = some a' ∧ a.SameBuild a'

/-- Tasks were launched, numbered in order, and nothing that is there was interfered with. -/
structure Extends (p p' : Pool) : Prop where
  tasks : ∃ new : List Task, p'.tasks = p.tasks ++ new ∧
    new.map Task.id = List.range' p.nextTask new.length ∧
    p'.nextTask = p.nextTask + new.length ∧
    ∀ task ∈ new, ∀ id, task.activity.work = .replication id →
      p.supervisors.length ≤ id ∧ id < p'.supervisors.length
  results : p'.results = p.results
  supervisors : p.supervisors <+: p'.supervisors
  agents : p.KeepsAgents p'
  cancelled : ∀ t, p.isCancelled t → p'.isCancelled t

lemma isCancelled_cancel (p : Pool) (t : StopToken) : (p.cancel t).isCancelled t := by
  simp [isCancelled, cancel, Host.isCancelled, Host.cancel]

lemma KeepsAgents.refl (p : Pool) : p.KeepsAgents p :=
  fun _ a ha => ⟨a, ha, .refl a⟩

lemma KeepsAgents.trans (h : p.KeepsAgents p') (h' : p'.KeepsAgents p'') : p.KeepsAgents p'' := by
  intro id a ha
  obtain ⟨a', ha', hsame⟩ := h id a ha
  obtain ⟨a'', ha'', hsame'⟩ := h' id a' ha'
  exact ⟨a'', ha'', hsame.trans hsame'⟩

/-- One agent server is exchanged for another of the same build. -/
lemma KeepsAgents.set {id : Nat} {a a' : AgentServer} (ha : p.agents[id]? = some a)
    (hsame : a.SameBuild a') (hagents : p'.agents = p.agents.set id a') : p.KeepsAgents p' := by
  intro other b hb
  rw [hagents]
  by_cases hid : id = other
  · subst hid
    obtain rfl := Option.some.inj (ha.symm.trans hb)
    have hlt : id < p.agents.length := (List.getElem?_eq_some_iff.1 ha).1
    exact ⟨a', List.getElem?_set_self hlt, hsame⟩
  · exact ⟨b, by rwa [List.getElem?_set_ne hid], .refl b⟩

namespace Extends

lemma of_eq (htasks : p'.tasks = p.tasks) (hnext : p'.nextTask = p.nextTask)
    (hresults : p'.results = p.results) (hsupervisors : p'.supervisors = p.supervisors)
    (hagents : p.KeepsAgents p') (hcancelled : p'.host.cancelled = p.host.cancelled) :
    p.Extends p' where
  tasks := ⟨[], by simp [htasks], rfl, hnext, by simp⟩
  results := hresults
  supervisors := hsupervisors ▸ List.prefix_refl _
  agents := hagents
  cancelled t ht := by rwa [isCancelled, Host.isCancelled, hcancelled]

lemma refl (p : Pool) : p.Extends p :=
  of_eq rfl rfl rfl rfl (.refl p) rfl

lemma trans (h : p.Extends p') (h' : p'.Extends p'') : p.Extends p'' where
  tasks := by
    obtain ⟨new, htasks, hids, hnext, hworks⟩ := h.tasks
    obtain ⟨new', htasks', hids', hnext', hworks'⟩ := h'.tasks
    have hfewer := h.supervisors.length_le
    have hfewer' := h'.supervisors.length_le
    refine ⟨new ++ new', ?_, ?_, ?_, ?_⟩
    · rw [htasks', htasks, List.append_assoc]
    · rw [List.map_append, hids, hids', hnext, List.length_append, List.range'_append_1]
    · rw [hnext', hnext, List.length_append, Nat.add_assoc]
    · intro task htask id hwork
      rcases List.mem_append.1 htask with hnew | hnew
      · obtain ⟨hle, hlt⟩ := hworks task hnew id hwork
        exact ⟨hle, Nat.lt_of_lt_of_le hlt hfewer'⟩
      · obtain ⟨hle, hlt⟩ := hworks' task hnew id hwork
        exact ⟨Nat.le_trans hfewer hle, hlt⟩
  results := h'.results.trans h.results
  supervisors := h.supervisors.trans h'.supervisors
  agents := h.agents.trans h'.agents
  cancelled t ht := h'.cancelled t (h.cancelled t ht)

/-- A task that does not work for a supervisor is launched. -/
lemma spawn {a : Activity} (ha : ∀ id, a.work ≠ .replication id) (g : Option Group)
    (t : StopToken) : p.Extends (p.spawn g t a).2 where
  tasks := by
    refine ⟨[{ id := p.nextTask, group := g, token := t, activity := a }], rfl, rfl, rfl, ?_⟩
    intro task htask id hwork
    obtain rfl := List.mem_singleton.1 htask
    exact absurd hwork (ha id)
  results := rfl
  supervisors := List.prefix_refl _
  agents := .refl _
  cancelled _ ht := ht

lemma cancel (p : Pool) (t : StopToken) : p.Extends (p.cancel t) where
  tasks := ⟨[], by simp [Pool.cancel], rfl, rfl, by simp⟩
  results := rfl
  supervisors := List.prefix_refl _
  agents := .refl _
  cancelled other hother := by
    rw [isCancelled, Host.isCancelled, List.contains_iff_mem] at hother ⊢
    exact List.mem_cons_of_mem _ hother

/-- What is there stays there. -/
lemma mem (h : p.Extends p') {task : Task} (htask : task ∈ p.tasks) : task ∈ p'.tasks := by
  obtain ⟨new, htasks, -⟩ := h.tasks
  rw [htasks]
  exact List.mem_append_left _ htask

/-- What has come is numbered higher than all that was there. -/
lemma mem_or_le (h : p.Extends p') {task : Task} (htask : task ∈ p'.tasks) :
    task ∈ p.tasks ∨ p.nextTask ≤ task.id ∧ task.id < p'.nextTask ∧
      ∀ id, task.activity.work = .replication id →
        p.supervisors.length ≤ id ∧ id < p'.supervisors.length := by
  obtain ⟨new, htasks, hids, hnext, hworks⟩ := h.tasks
  rw [htasks] at htask
  rcases List.mem_append.1 htask with hold | hnew
  · exact .inl hold
  · have hid : task.id ∈ new.map Task.id := List.mem_map_of_mem hnew
    rw [hids, List.mem_range'_1] at hid
    exact .inr ⟨hid.1, hnext ▸ hid.2, hworks task hnew⟩

lemma supervisor (h : p.Extends p') {id : Nat} {s : Supervisor} (hs : p.supervisors[id]? = some s) :
    p'.supervisors[id]? = some s := by
  obtain ⟨more, hmore⟩ := h.supervisors
  rw [← hmore, List.getElem?_append_left (List.getElem?_eq_some_iff.1 hs).1]
  exact hs

end Extends

lemma Sound.extended (hs : p.Sound) (h : p.Extends p') : p'.Sound := by
  have hfewer := h.supervisors.length_le
  refine ⟨?_, ?_, ?_⟩
  · obtain ⟨new, htasks, hids, -, -⟩ := h.tasks
    have hnew : (new.map Task.id).Pairwise (· < ·) := by
      rw [hids]
      exact List.pairwise_lt_range'
    rw [htasks, List.pairwise_append]
    refine ⟨hs.increasing, List.pairwise_map.1 hnew, fun old hold task htask => ?_⟩
    have hid : task.id ∈ new.map Task.id := List.mem_map_of_mem htask
    rw [hids, List.mem_range'_1] at hid
    exact Nat.lt_of_lt_of_le (hs.fresh old hold) hid.1
  · intro task htask
    obtain ⟨new, -, -, hnext, -⟩ := h.tasks
    rcases h.mem_or_le htask with hold | ⟨-, hlt, -⟩
    · rw [hnext]
      exact Nat.lt_of_lt_of_le (hs.fresh task hold) (Nat.le_add_right _ _)
    · exact hlt
  · intro task htask id hwork
    rcases h.mem_or_le htask with hold | ⟨-, -, hsupervised⟩
    · exact Nat.lt_of_lt_of_le (hs.supervised task hold id hwork) hfewer
    · exact (hsupervised id hwork).2

lemma Accounted.extended {g : Option Group} {id : TaskId} (h : p.Accounted g id)
    (hextends : p.Extends p') : p'.Accounted g id := by
  rcases h with ⟨task, htask, hid, hgroup⟩ | ⟨o, ho⟩
  · exact .inl ⟨task, hextends.mem htask, hid, hgroup⟩
  · exact .inr ⟨o, hextends.results ▸ ho⟩

/-! ### Replication -/

/-- The tasks that run the jobs of a topology for a supervisor. -/
def jobTasks (first : TaskId) (g : Group) (t : StopToken) (e : Engine)
    (topology : ReplicationTopology) (supervisor : Nat) (jobs : List ReplicationJob) : List Task :=
  jobs.mapIdx fun i j =>
    { id := first + i, group := some g, token := t,
      activity := .supervised supervisor j (.pending e topology) }

lemma mem_jobTasks {first : TaskId} {g : Group} {t : StopToken} {e : Engine}
    {topology : ReplicationTopology} {supervisor : Nat} {jobs : List ReplicationJob} {task : Task} :
    task ∈ jobTasks first g t e topology supervisor jobs ↔ ∃ i, ∃ h : i < jobs.length,
      task = { id := first + i, group := some g, token := t,
               activity := .supervised supervisor jobs[i] (.pending e topology) } := by
  rw [jobTasks, List.mem_mapIdx]
  exact exists_congr fun i => exists_congr fun h => eq_comm

lemma launchJobs_eq (g : Group) (t : StopToken) (e : Engine) (topology : ReplicationTopology)
    (supervisor : Nat) (jobs : List ReplicationJob) (p : Pool) :
    launchJobs g t e topology supervisor jobs p =
      { p with
        tasks := p.tasks ++ jobTasks p.nextTask g t e topology supervisor jobs
        nextTask := p.nextTask + jobs.length } := by
  induction jobs generalizing p with
  | nil => simp [launchJobs, jobTasks]
  | cons j rest ih =>
    rw [launchJobs, ih]
    simp only [Pool.spawn, jobTasks, List.mapIdx_cons, List.append_assoc, List.singleton_append,
      List.length_cons, Nat.add_zero, Nat.add_assoc, Nat.add_comm 1]

/-- Replication is started for the jobs of a topology, or there is no change at all. -/
lemma startReplication_cases (p : Pool) (g : Group) (t : StopToken) (role : Role)
    (topology : ReplicationTopology) (e : Engine) :
    (∃ err, Supervisor.start role topology = .error err ∧
      p.startReplication g t role topology e = (.error err, p)) ∨
    ∃ s, Supervisor.start role topology = .ok s ∧
      p.startReplication g t role topology e = (.ok p.supervisors.length,
        { p with
          tasks := p.tasks
            ++ jobTasks p.nextTask g t e topology p.supervisors.length topology.jobs
          nextTask := p.nextTask + topology.jobs.length
          supervisors := p.supervisors ++ [s] }) := by
  cases hstart : Supervisor.start role topology with
  | error err =>
    refine .inl ⟨err, rfl, ?_⟩
    rw [startReplication, hstart]
  | ok s =>
    refine .inr ⟨s, rfl, ?_⟩
    rw [startReplication, hstart]
    simp only [launchJobs_eq]

lemma Extends.startReplication (p : Pool) (g : Group) (t : StopToken) (role : Role)
    (topology : ReplicationTopology) (e : Engine) :
    p.Extends (p.startReplication g t role topology e).2 := by
  rcases p.startReplication_cases g t role topology e with ⟨err, -, heq⟩ | ⟨s, -, heq⟩
  · rw [heq]
    exact .refl p
  · rw [heq]
    have hlength : (jobTasks p.nextTask g t e topology p.supervisors.length
        topology.jobs).length = topology.jobs.length := List.length_mapIdx
    refine ⟨⟨_, rfl, ?_, ?_, ?_⟩, rfl, List.prefix_append _ _, .refl p, fun _ ht => ht⟩
    · refine List.ext_getElem (by simp) fun i h h' => ?_
      simp [jobTasks]
    · rw [hlength]
    · intro task htask id hwork
      obtain ⟨i, hi, rfl⟩ := mem_jobTasks.1 htask
      obtain rfl := Work.replication.inj hwork
      exact ⟨Nat.le_refl _, by simp⟩

/-! ### Everything else -/

/-- Anything but a task that works for a supervisor. -/
def Unsupervised : Addition → Prop
  | .task a => ∀ id, a.work ≠ .replication id
  | _ => True

namespace Extends

lemma of_change (h : Change Unsupervised p p') : p.Extends p' := by
  cases h with
  | works hworks =>
    exact of_eq rfl rfl rfl rfl (.refl p) (Host.Affected.cancelled_eq (.single hworks))
  | spawns ha g t => exact spawn ha g t
  | manages | modifies | adapts | numbers => exact of_eq rfl rfl rfl rfl (.refl p) rfl
  | supervises _ s =>
    exact ⟨⟨[], by simp, rfl, rfl, by simp⟩, rfl, List.prefix_append _ _, .refl p, fun _ ht => ht⟩
  | @serves a _ =>
    refine of_eq rfl rfl rfl rfl (fun id b hb => ⟨b, ?_, .refl b⟩) rfl
    rw [addAgent, List.getElem?_append_left (List.getElem?_eq_some_iff.1 hb).1]
    exact hb
  | registers ha hsame => exact of_eq rfl rfl rfl rfl (.set ha hsame rfl) rfl

lemma of_launched (h : Launched Unsupervised p p') : p.Extends p' := by
  induction h with
  | refl => exact refl p
  | tail _ hchange ih => exact ih.trans (of_change hchange)

lemma host (p : Pool) {host : Host} (h : host.cancelled = p.host.cancelled) :
    p.Extends { p with host } :=
  of_eq rfl rfl rfl rfl (.refl p) h

lemma launchRefresh (p : Pool) (g : Group) (t : StopToken) (interval : Duration) (o : Options)
    (paths : RuntimePaths) : p.Extends (p.launchRefresh g t interval o paths) :=
  spawn (fun _ => Work.noConfusion) _ _

end Extends

/-- An agent server that was started is there as it was built, and a task runs it. -/
lemma startServer_ok {g : Group} {t : StopToken} {f : Framework} {config : ServerConfig}
    {inProcess notify : Bool} {agent : Nat}
    (h : p.startServer g t f config inProcess notify = (.ok agent, p')) :
    ∃ a a', AgentServer.build f p.host config inProcess = .ok a ∧ a.SameBuild a' ∧
      p'.agents[agent]? = some a' ∧
      ∃ task ∈ p'.tasks, task.group = some g ∧ task.token = t ∧
        task.activity = .serving agent .starting := by
  unfold Pool.startServer at h
  split at h
  · exact absurd (congrArg Prod.fst h) (by simp)
  · next a hbuilt =>
    obtain ⟨hid, rfl⟩ := Prod.mk.inj h
    obtain rfl := Except.ok.inj hid
    have hadded : (p.addAgent a).2.agents[p.agents.length]? = some a := by simp [addAgent]
    have hkept : (p.addAgent a).2.KeepsAgents
        (if notify then (p.addAgent a).2.registerCallback p.agents.length
          else (p.addAgent a).2) := by
      split
      · exact (Extends.of_launched (.registerCallback ..)).agents
      · exact .refl _
    obtain ⟨a', ha', hsame⟩ := hkept _ a hadded
    exact ⟨a, a', hbuilt, hsame, ha', _, List.mem_append_right _ (List.mem_singleton_self _),
      rfl, rfl, rfl⟩

end Pool

end EdgeNode
