import EdgeNode.Proofs.Pool.Steps
import Mathlib.Data.List.Nodup
/-!
# The tasks of a pool

The tasks of a pool are told apart by their numbers, which are given out in order.  So the turn of
a task changes that task alone: `Pool.Turned.mem_of_ne`, and what has become of the task itself
is one of the cases of `Pool.Turned`.  A task that is no longer in the pool has a result.
-/

namespace EdgeNode.Pool

variable {p p' q : Pool} {task other : Task} {id : TaskId} {a : Activity}
  {o : Outcome Error Unit}

/-- What the turn of a task comes to. -/
inductive Turned (p : Pool) (task : Task) : Pool → Prop
  /-- The task goes on with something else. -/
  | goesOn {a : Activity} {q : Pool}
    (h : p.stepActivity task.token task.activity = (.next a, q)) :
    Turned p task (q.resume task.id a)
  /-- The task has ended. -/
  | ended {o : Outcome Error Unit} {q : Pool}
    (h : p.stepActivity task.token task.activity = (.done o, q)) :
    Turned p task (q.retire task.id o)
  /-- The task waits, and nothing has changed. -/
  | waits {wake : Option Nat} {q : Pool}
    (h : p.stepActivity task.token task.activity = (.wait wake, q)) : Turned p task p

lemma turned (p : Pool) (task : Task) : Turned p task (p.turn task) := by
  unfold turn
  split
  · exact .goesOn ‹_›
  · exact .ended ‹_›
  · exact .waits ‹_›

lemma sameLists_of_stepActivity {t : StopToken} {progress : Progress Activity (Outcome Error Unit)}
    (h : p.stepActivity t a = (progress, q)) : SameLists p q := by
  have hsame := sameLists_stepActivity p t a
  rwa [h] at hsame

/-- A task is as it was before the turn, or it is what the turn goes on with. -/
lemma Turned.mem_or_next (h : p.Turned task p') (hother : other ∈ p'.tasks) :
    other ∈ p.tasks ∨ (p.stepActivity task.token task.activity).1 = .next other.activity ∧
      p'.host = (p.stepActivity task.token task.activity).2.host := by
  cases h with
  | goesOn hstep =>
    obtain ⟨old, hold, rfl⟩ := List.mem_map.1 hother
    rw [(sameLists_of_stepActivity hstep).tasks] at hold
    split
    · rw [hstep]
      exact .inr ⟨rfl, rfl⟩
    · exact .inl hold
  | ended hstep =>
    have hold := (List.mem_filter.1 hother).1
    rw [(sameLists_of_stepActivity hstep).tasks] at hold
    exact .inl hold
  | waits hstep => exact .inl hother

/-- What tasks share is after a turn as it is after the step, unless the task waits. -/
lemma Turned.shared (h : p.Turned task p') : p' = p ∨
    p'.host = (p.stepActivity task.token task.activity).2.host ∧
      p'.brokers = (p.stepActivity task.token task.activity).2.brokers ∧
      p'.agents = (p.stepActivity task.token task.activity).2.agents := by
  cases h with
  | goesOn hstep | ended hstep =>
    rw [hstep]
    exact .inr ⟨rfl, rfl, rfl⟩
  | waits hstep => exact .inl rfl

/-! ### Numbers -/

/-- The tasks are listed by number, below the number of the next, and whoever works for a supervisor
works for one that is there. -/
structure Sound (p : Pool) : Prop where
  increasing : p.tasks.Pairwise fun a b => a.id < b.id
  fresh : ∀ task ∈ p.tasks, task.id < p.nextTask
  supervised : ∀ task ∈ p.tasks, ∀ id, task.activity.work = .replication id →
    id < p.supervisors.length

lemma Sound.empty : Sound {} :=
  ⟨List.Pairwise.nil, by simp, by simp⟩

/-- A number is that of one task. -/
lemma Sound.eq_of_id_eq (hs : p.Sound) (htask : task ∈ p.tasks) (hother : other ∈ p.tasks)
    (hid : task.id = other.id) : task = other := by
  have hnodup : (p.tasks.map Task.id).Nodup :=
    List.pairwise_map.2 (hs.increasing.imp Nat.ne_of_lt)
  exact List.inj_on_of_nodup_map hnodup htask hother hid

/-- The tasks when one of them has gone on. -/
lemma mem_resume (hs : p.Sound) (htask : task ∈ p.tasks) (hsame : SameLists p q) :
    other ∈ (q.resume task.id a).tasks ↔
      other = { task with activity := a } ∨ other ∈ p.tasks ∧ other.id ≠ task.id := by
  rw [resume, List.mem_map, hsame.tasks]
  constructor
  · rintro ⟨old, hold, rfl⟩
    by_cases hid : old.id = task.id
    · obtain rfl := hs.eq_of_id_eq hold htask hid
      simp
    · rw [if_neg (by simpa using hid)]
      exact .inr ⟨hold, hid⟩
  · rintro (rfl | ⟨hold, hid⟩)
    · exact ⟨task, htask, by simp⟩
    · exact ⟨other, hold, if_neg (by simpa using hid)⟩

/-- The tasks when one of them has ended. -/
lemma mem_retire (hsame : SameLists p q) :
    other ∈ (q.retire id o).tasks ↔ other ∈ p.tasks ∧ other.id ≠ id := by
  rw [retire, List.mem_filter, hsame.tasks, bne_iff_ne]

namespace Turned

lemma eq_resume (h : p.Turned task p')
    (hstep : p.stepActivity task.token task.activity = (.next a, q)) :
    p' = q.resume task.id a := by
  cases h with
  | goesOn hturn =>
    obtain ⟨hnext, rfl⟩ := Prod.mk.inj (hturn.symm.trans hstep)
    rw [Progress.next.inj hnext]
  | ended hturn | waits hturn => exact absurd (congrArg Prod.fst (hturn.symm.trans hstep)) (by simp)

lemma eq_retire (h : p.Turned task p')
    (hstep : p.stepActivity task.token task.activity = (.done o, q)) :
    p' = q.retire task.id o := by
  cases h with
  | ended hturn =>
    obtain ⟨hdone, rfl⟩ := Prod.mk.inj (hturn.symm.trans hstep)
    rw [Progress.done.inj hdone]
  | goesOn hturn | waits hturn => exact absurd (congrArg Prod.fst (hturn.symm.trans hstep)) (by simp)

lemma eq_self {wake : Option Nat} (h : p.Turned task p')
    (hstep : p.stepActivity task.token task.activity = (.wait wake, q)) : p' = p := by
  cases h with
  | waits hturn => rfl
  | goesOn hturn | ended hturn => exact absurd (congrArg Prod.fst (hturn.symm.trans hstep)) (by simp)

/-- The turn of a task leaves the other tasks alone. -/
lemma mem_of_ne (h : p.Turned task p') (hs : p.Sound) (htask : task ∈ p.tasks)
    (hne : other.id ≠ task.id) : other ∈ p'.tasks ↔ other ∈ p.tasks := by
  cases h with
  | goesOn hstep =>
    rw [mem_resume hs htask (sameLists_of_stepActivity hstep)]
    constructor
    · rintro (rfl | ⟨hother, -⟩)
      · exact absurd rfl hne
      · exact hother
    · exact fun hother => .inr ⟨hother, hne⟩
  | ended hstep =>
    rw [mem_retire (sameLists_of_stepActivity hstep)]
    exact ⟨And.left, fun hother => ⟨hother, hne⟩⟩
  | waits hstep => rfl

lemma nextTask_eq (h : p.Turned task p') : p'.nextTask = p.nextTask := by
  cases h with
  | goesOn hstep => exact (sameLists_of_stepActivity hstep).nextTask
  | ended hstep => exact (sameLists_of_stepActivity hstep).nextTask
  | waits hstep => rfl

lemma ids_sublist (h : p.Turned task p') :
    (p'.tasks.map Task.id).Sublist (p.tasks.map Task.id) := by
  cases h with
  | @goesOn a q hstep =>
    have hids : (q.resume task.id a).tasks.map Task.id = q.tasks.map Task.id := by
      rw [resume, List.map_map]
      refine List.map_congr_left fun old _ => ?_
      by_cases hid : old.id = task.id <;> simp [hid]
    rw [hids, (sameLists_of_stepActivity hstep).tasks]
  | ended hstep =>
    rw [retire, (sameLists_of_stepActivity hstep).tasks]
    exact List.filter_sublist.map Task.id
  | waits hstep => exact List.Sublist.refl _

end Turned

/-- A task that goes on with the same leaves the tasks as they are. -/
lemma tasks_turn_of_next (hids : (p.tasks.map Task.id).Nodup) (htask : task ∈ p.tasks)
    (hnext : (p.stepActivity task.token task.activity).1 = .next task.activity) :
    (p.turn task).tasks = p.tasks := by
  have hstep : p.stepActivity task.token task.activity
      = (.next task.activity, (p.stepActivity task.token task.activity).2) :=
    Prod.ext hnext rfl
  rw [(p.turned task).eq_resume hstep, resume, (sameLists_of_stepActivity hstep).tasks]
  refine (List.map_congr_left fun other hother => ?_).trans (List.map_id _)
  by_cases hid : other.id = task.id
  · obtain rfl := List.inj_on_of_nodup_map hids hother htask hid
    simp
  · simp [hid]

lemma Sound.turn (hs : p.Sound) (htask : task ∈ p.tasks) : (p.turn task).Sound := by
  have hturned := p.turned task
  refine ⟨?_, ?_, ?_⟩
  · have hincreasing : (p.tasks.map Task.id).Pairwise (· < ·) := List.pairwise_map.2 hs.increasing
    exact List.pairwise_map.1 (hincreasing.sublist hturned.ids_sublist)
  · intro new hnew
    obtain ⟨old, hold, hid, -⟩ := mem_tasks_turn htask hnew
    rw [hturned.nextTask_eq, ← hid]
    exact hs.fresh old hold
  · intro new hnew id hwork
    obtain ⟨old, hold, -, hsame⟩ := mem_tasks_turn htask hnew
    rw [length_supervisors_turn]
    exact hs.supervised old hold id (hsame.trans hwork)

/-! ### Groups -/

lemma running_eq_zero_iff {g : Group} :
    p.running g = 0 ↔ ∀ task ∈ p.tasks, task.group ≠ some g := by
  rw [running, List.length_eq_zero_iff, List.filter_eq_nil_iff]
  simp only [beq_iff_eq]

/-! ### Results -/

/-- A task of a group is still there, or it is known how it ended. -/
def Accounted (p : Pool) (g : Option Group) (id : TaskId) : Prop :=
  (∃ task ∈ p.tasks, task.id = id ∧ task.group = g) ∨ ∃ o, (id, o) ∈ p.results

lemma Accounted.turned {g : Option Group} (h : p.Accounted g id) (hturned : p.Turned task p') :
    p'.Accounted g id := by
  cases hturned with
  | @goesOn a q hstep =>
    have hsame := sameLists_of_stepActivity hstep
    rcases h with ⟨old, hold, hid, hgroup⟩ | ⟨o, ho⟩
    · refine .inl ⟨if old.id == task.id then { old with activity := a } else old, ?_, ?_, ?_⟩
      · rw [resume]
        exact List.mem_map_of_mem (hsame.tasks ▸ hold)
      · split <;> exact hid
      · split <;> exact hgroup
    · exact .inr ⟨o, hsame.results ▸ ho⟩
  | @ended o q hstep =>
    have hsame := sameLists_of_stepActivity hstep
    rcases h with ⟨old, hold, hid, hgroup⟩ | ⟨o', ho'⟩
    · by_cases htask : old.id = task.id
      · -- the task itself has ended just now
        exact .inr ⟨o, List.mem_append_right _ (by simp [← hid, htask])⟩
      · exact .inl ⟨old, (mem_retire hsame).2 ⟨hold, htask⟩, hid, hgroup⟩
    · exact .inr ⟨o', List.mem_append_left _ (hsame.results ▸ ho')⟩
  | waits hstep => exact h

/-- A task of a group of which none is left has ended. -/
lemma Accounted.ended {g : Group} (h : p.Accounted (some g) id) (hnone : p.running g = 0) :
    ∃ o, (id, o) ∈ p.results := by
  rcases h with ⟨task, htask, -, hgroup⟩ | hended
  · exact absurd hgroup (running_eq_zero_iff.1 hnone task htask)
  · exact hended

end EdgeNode.Pool
