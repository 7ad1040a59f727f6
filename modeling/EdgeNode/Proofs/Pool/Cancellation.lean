import EdgeNode.Proofs.Pool.Effects
import EdgeNode.Proofs.Pool.Launches
/-!
# Cancellation lasts

A task that was made to cancel a token does so, and no other task cancels anything.  No task takes a
cancellation back, and none exchanges an agent server for one of another build.  So whatever
happens to a pool, by a turn of a task or from outside, a token that was cancelled stays cancelled:
`Pool.Goes.cancelled`.
-/

namespace EdgeNode

/-- A step of an agent server changes at most who waits for it. -/
lemma AgentServer.sameBuild_step (a : AgentServer) (h : Host) (t : StopToken)
    (stage : AgentServer.Stage) : a.SameBuild (a.step h t stage).2.2 := by
  cases stage with
  | starting =>
    simp only [step]
    split
    · exact .refl a
    · split
      · exact .refl a
      · split <;> exact .refl a
  | ready =>
    simp only [step]
    split <;> exact ⟨rfl, rfl, rfl⟩
  | idle =>
    simp only [step]
    split <;> exact .refl a
  | pausing wake =>
    simp only [step]
    split
    · exact .refl a
    · split <;> exact .refl a
  | course start =>
    simp only [step]
    split <;> exact .refl a

/-! ### Tasks -/

namespace Pool

variable {p p' : Pool} {task : Task}

/-- What was cancelled is cancelled after a step of any task. -/
lemma cancelled_stepActivity (p : Pool) (t : StopToken) (a : Activity) {token : StopToken}
    (htoken : p.isCancelled token) : (p.stepActivity t a).2.isCancelled token := by
  rcases p.affected_stepActivity t a with haffected | ⟨target, hcancel⟩
  · rw [isCancelled, Host.isCancelled, haffected.cancelled_eq]
    exact htoken
  · rw [hcancel]
    exact (Extends.cancel p target).cancelled token htoken

/-- Agent servers are there as they were built after a step of any task. -/
lemma keepsAgents_stepActivity (p : Pool) (t : StopToken) (a : Activity) :
    p.KeepsAgents (p.stepActivity t a).2 := by
  cases a with
  | cancelling target wake =>
    simp only [stepActivity]
    split <;> exact .refl p
  | copying run => exact .refl p
  | supervised id j stage =>
    simp only [stepActivity]
    split <;> exact .refl p
  | broker id stage | provisioning id spec stage =>
    simp only [stepActivity, stepBroker]
    split <;> exact .refl p
  | receiving id | working id =>
    simp only [stepActivity, stepAdapter]
    split <;> exact .refl p
  | serving id stage =>
    simp only [stepActivity]
    split
    · exact .refl p
    · next a ha => exact .set ha (a.sameBuild_step p.host t stage) rfl
  | refreshing interval o paths stage => exact .refl p

namespace Turned

lemma cancelled (h : p.Turned task p') {token : StopToken} (htoken : p.isCancelled token) :
    p'.isCancelled token := by
  have hkept := p.cancelled_stepActivity task.token task.activity htoken
  rcases h.shared with rfl | ⟨hhost, -⟩
  · exact htoken
  · rw [isCancelled, hhost]
    exact hkept

lemma keepsAgents (h : p.Turned task p') : p.KeepsAgents p' := by
  have hkept := p.keepsAgents_stepActivity task.token task.activity
  rcases h.shared with rfl | ⟨-, -, hagents⟩
  · exact .refl p'
  · rw [KeepsAgents, hagents]
    exact hkept

/-- No agent server comes in. -/
lemma exists_agent (h : p.Turned task p') {a : AgentServer} (ha : a ∈ p'.agents) :
    ∃ old ∈ p.agents, old.SameBuild a := by
  have hlength : p'.agents.length = p.agents.length := by
    rcases h.shared with rfl | ⟨-, -, hagents⟩
    · rfl
    · rw [hagents]
      exact (sameLists_stepActivity ..).agents
  obtain ⟨i, hi⟩ := List.mem_iff_getElem?.1 ha
  have hlt : i < p.agents.length := hlength ▸ (List.getElem?_eq_some_iff.1 hi).1
  obtain ⟨a', ha', hsame⟩ := h.keepsAgents i p.agents[i] (List.getElem?_eq_getElem hlt)
  obtain rfl := Option.some.inj (hi.symm.trans ha')
  exact ⟨_, List.getElem_mem hlt, hsame⟩

end Turned

/-! ### Whatever happens -/

/-- What happens to a pool: a turn of a task, or something that others do. -/
inductive Goes (p : Pool) : Pool → Prop
  | turn {task : Task} (htask : task ∈ p.tasks) : Goes p (p.turn task)
  | others {p' : Pool} (h : p.Extends p') : Goes p p'

namespace Goes

lemma sound (h : p.Goes p') (hs : p.Sound) : p'.Sound := by
  cases h with
  | turn htask => exact hs.turn htask
  | others hextends => exact hs.extended hextends

/-- A task is still there as it was, or it has just had its turn. -/
lemma mem_or_eq_turn (h : p.Goes p') (hs : p.Sound) (htask : task ∈ p.tasks) :
    task ∈ p'.tasks ∨ p' = p.turn task := by
  cases h with
  | @turn other hother =>
    by_cases hid : task.id = other.id
    · obtain rfl := hs.eq_of_id_eq htask hother hid
      exact .inr rfl
    · exact .inl (((p.turned other).mem_of_ne hs hother hid).2 htask)
  | others hextends => exact .inl (hextends.mem htask)

lemma accounted (h : p.Goes p') {g : Option Group} {id : TaskId} (haccounted : p.Accounted g id) :
    p'.Accounted g id := by
  cases h with
  | turn htask => exact haccounted.turned (p.turned _)
  | others hextends => exact haccounted.extended hextends

/-- **Cancellation lasts.** -/
theorem cancelled (h : p.Goes p') {token : StopToken} (htoken : p.isCancelled token) :
    p'.isCancelled token := by
  cases h with
  | turn htask => exact (p.turned _).cancelled htoken
  | others hextends => exact hextends.cancelled token htoken

lemma keepsAgents (h : p.Goes p') : p.KeepsAgents p' := by
  cases h with
  | turn htask => exact (p.turned _).keepsAgents
  | others hextends => exact hextends.agents

end Goes

end Pool

end EdgeNode
