import EdgeNode.Proofs.Pool.Changes
/-!
# The parts of a leader

Only a leader runs a broker and replication.  `LeaderPart.Untouched` says that nothing of such a
part came under management and that no task of it was launched; whoever launches other work, and
every step of a task, leaves both parts untouched.
-/

namespace EdgeNode

/-- What only a leader runs. -/
inductive LeaderPart where
  /-- The broker. -/
  | broker
  /-- The replication jobs. -/
  | replication
deriving DecidableEq, Repr

namespace LeaderPart

/-- How many of them are under management. -/
def managed : LeaderPart → Pool → Nat
  | .broker, p => p.brokers.length
  | .replication, p => p.supervisors.length

/-- What their tasks are for. -/
def Runs : LeaderPart → Work → Prop
  | .broker, .broker _ => True
  | .replication, .replication _ => True
  | _, _ => False

lemma not_runs_other (part : LeaderPart) : ¬ part.Runs .other := by
  cases part <;> exact id

lemma not_runs_provisioning (part : LeaderPart) (manager : Nat) :
    ¬ part.Runs (.provisioning manager) := by
  cases part <;> exact id

/-- What is nothing of a part. -/
def Beside (part : LeaderPart) : Pool.Addition → Prop
  | .task a => ¬ part.Runs a.work
  | .broker => part ≠ .broker
  | .supervisor => part ≠ .replication
  | .adapter => True
  | .agent _ => True

lemma following_beside (part : LeaderPart) : Pool.Addition.Following part.Beside :=
  ⟨⟨trivial, fun _ => part.not_runs_other, fun _ => part.not_runs_other⟩,
    fun id _ _ => part.not_runs_provisioning id⟩

/-- None came under management and no task of theirs was launched. -/
structure Untouched (part : LeaderPart) (p p' : Pool) : Prop where
  /-- As many are under management as before. -/
  managed : part.managed p' = part.managed p
  /-- Their tasks are tasks from before. -/
  tasks : ∀ task ∈ p'.tasks, part.Runs task.activity.work →
    ∃ old ∈ p.tasks, old.id = task.id ∧ old.activity.work = task.activity.work

namespace Untouched

variable {part : LeaderPart} {p p' p'' : Pool}

lemma of_eq (htasks : p'.tasks = p.tasks) (hbrokers : p'.brokers.length = p.brokers.length)
    (hsupervisors : p'.supervisors.length = p.supervisors.length) : part.Untouched p p' where
  managed := by
    cases part with
    | broker => exact hbrokers
    | replication => exact hsupervisors
  tasks := by
    intro task htask _
    exact ⟨task, htasks ▸ htask, rfl, rfl⟩

lemma refl (part : LeaderPart) (p : Pool) : part.Untouched p p :=
  of_eq rfl rfl rfl

lemma trans (h : part.Untouched p p') (h' : part.Untouched p' p'') : part.Untouched p p'' where
  managed := h'.managed.trans h.managed
  tasks := by
    intro task htask hruns
    obtain ⟨middle, hmiddle, hid, hwork⟩ := h'.tasks task htask hruns
    obtain ⟨old, hold, hid', hwork'⟩ := h.tasks middle hmiddle (hwork ▸ hruns)
    exact ⟨old, hold, hid'.trans hid, hwork'.trans hwork⟩

lemma turn {task : Task} (htask : task ∈ p.tasks) : part.Untouched p (p.turn task) where
  managed := by
    cases part with
    | broker => exact p.length_brokers_turn task
    | replication => exact p.length_supervisors_turn task
  tasks _ hnew _ := Pool.mem_tasks_turn htask hnew

/-- Other work is launched. -/
lemma spawn {a : Activity} (ha : ¬ part.Runs a.work) (g : Option Group) (t : StopToken) :
    part.Untouched p (p.spawn g t a).2 where
  managed := by cases part <;> rfl
  tasks := by
    intro task htask hruns
    rcases List.mem_append.1 htask with hold | hnew
    · exact ⟨task, hold, rfl, rfl⟩
    · obtain rfl := List.mem_singleton.1 hnew
      exact absurd hruns ha

lemma of_change (h : Pool.Change part.Beside p p') : part.Untouched p p' := by
  cases h with
  | works | adapts | serves | registers | numbers => exact of_eq rfl rfl rfl
  | modifies => exact of_eq rfl (List.length_modify ..) rfl
  | spawns ha g t => exact spawn ha g t
  | manages hother m =>
    cases part with
    | broker => exact absurd rfl hother
    | replication => exact ⟨rfl, fun task htask _ => ⟨task, htask, rfl, rfl⟩⟩
  | supervises hother s =>
    cases part with
    | broker => exact ⟨rfl, fun task htask _ => ⟨task, htask, rfl, rfl⟩⟩
    | replication => exact absurd rfl hother

lemma of_launched (h : Pool.Launched part.Beside p p') : part.Untouched p p' := by
  induction h with
  | refl => exact refl part p
  | tail _ hchange ih => exact ih.trans (of_change hchange)

lemma readyStep (g : Group) (t : StopToken) (id : Nat) (spec : TopologySpec)
    (stage : BrokerManager.WaitStage) :
    part.Untouched p (p.readyStep g t id spec stage).2 :=
  of_launched (.readyStep part.following_beside ..)

end Untouched

end LeaderPart

end EdgeNode
