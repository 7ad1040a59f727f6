import EdgeNode.Proofs.Pool.Launches
/-!
# Ending early

An agent server and the refresh of the facts go on until they are cancelled, and else end only
early: `AgentServer.EndsEarly` and `Facts.Refresh.EndsEarly` say for which reasons.
-/

namespace EdgeNode

/-! ### Agent servers -/

namespace AgentServer

variable {a a' : AgentServer} {stage : Stage}

/-- An agent server ends although nobody cancelled it: its course is laid down so, or it is
provisioned and cannot write its status. -/
inductive EndsEarly (a : AgentServer) (f : Files) : Prop
  | course {after : Duration} {o : Outcome Error Unit} (h : a.course = some (.ends after o)) :
    EndsEarly a f
  | status {s : OperationalSettings} {e : Error} (hcourse : a.course = none)
    (hsettings : a.config.operational? = some s) (h : (a.writeStatus f s.statusFile).1 = .error e) :
    EndsEarly a f

/-- An agent server comes to a stage: it pauses only between registrations, and follows a course
only if one is laid down for it. -/
def ComesTo (a : AgentServer) : Stage → Prop
  | .pausing _ => a.registering?.isSome
  | .course _ => a.course.isSome
  | .starting | .ready | .idle => True

lemma comesTo_iff (hsame : a.SameBuild a') : a'.ComesTo stage ↔ a.ComesTo stage := by
  cases stage with
  | pausing wake => rw [ComesTo, ComesTo, registering?, registering?, hsame.inProcess, hsame.config]
  | course start => rw [ComesTo, ComesTo, hsame.course]
  | starting | ready | idle => exact Iff.rfl

/-- What a step of an agent server may come to: a stage that it comes to, or an end with a
reason. -/
def MayGo (a : AgentServer) (h : Host) (t : StopToken) : Progress Stage (Outcome Error Unit) → Prop
  | .next stage => a.ComesTo stage
  | .wait _ => True
  | .done _ => h.isCancelled t = true ∨ a.EndsEarly h.files

lemma ComesTo.step (hstage : a.ComesTo stage) (h : Host) (t : StopToken) :
    a.MayGo h t (a.step h t stage).1 := by
  cases stage with
  | starting =>
    simp only [AgentServer.step]
    split
    · next hcourse => exact Option.isSome_of_mem hcourse
    · next hcourse =>
      split
      · trivial
      · next hsettings =>
        split
        · trivial
        · next hwrite => exact .inr (.status hcourse hsettings (congrArg Prod.fst hwrite))
  | ready =>
    simp only [AgentServer.step]
    split
    · trivial
    · next hregistering => exact Option.isSome_of_mem hregistering
  | idle =>
    simp only [AgentServer.step]
    split
    · next hcancelled => exact .inl hcancelled
    · trivial
  | pausing wake =>
    have hregistering : a.registering?.isSome := hstage
    obtain ⟨s, hs⟩ := Option.isSome_iff_exists.1 hregistering
    simp only [AgentServer.step, hs]
    split
    · next hcut => exact .inl (Host.isCancelled_of_pause hcut)
    · trivial
    · exact hregistering
  | course start =>
    have hcourse : a.course.isSome := hstage
    obtain ⟨c, hc⟩ := Option.isSome_iff_exists.1 hcourse
    simp only [AgentServer.step, hc]
    cases c with
    | ends after o =>
      simp only [Course.step]
      split
      · exact .inr (.course hc)
      · trivial
    | lasts =>
      simp only [Course.step]
      split
      · next hcancelled => exact .inl hcancelled
      · trivial

end AgentServer

/-! ### The refresh of the facts -/

namespace Facts.Refresh

variable {h : Host} {t : StopToken} {interval : Duration} {o : Options} {paths : RuntimePaths}
  {stage : Facts.Refresh}

/-- There is no next write of the facts: none is asked for, or it would come where time ends. -/
def EndsEarly (interval : Duration) (h : Host) : Prop :=
  interval.nanos = 0 ∨ endOfTime ≤ ((Duration.ofMillis h.uptime).add interval).secs

/-- A write that is due later comes no earlier. -/
lemma secs_add_le {due instant : Duration} (hdue : due.nanos ≤ instant.nanos)
    (interval : Duration) : (due.add interval).secs ≤ (instant.add interval).secs :=
  Nat.div_le_div_right (Nat.add_le_add_right hdue _)

/-- The refresh of the facts that is not cancelled ends only early. -/
lemma endsEarly {outcome : Outcome Error Unit}
    (hdone : (stage.step h t interval o paths).1 = .done outcome) :
    h.isCancelled t = true ∨ EndsEarly interval h := by
  cases stage with
  | starting =>
    simp only [step] at hdone
    split at hdone
    · next hzero => exact .inr (.inl hzero)
    · unfold after at hdone
      split at hdone
      · contradiction
      · next hend => exact .inr (.inr (Nat.le_of_not_lt hend))
  | waiting due =>
    simp only [step] at hdone
    split at hdone
    · next hcut => exact .inl (Host.isCancelled_of_pause hcut)
    · contradiction
    · next hover =>
      unfold after at hdone
      split at hdone
      · contradiction
      · next hend =>
        have hdue : due.nanos ≤ h.uptime * 1000000 := by
          have hpassed := Host.le_uptime_of_pause hover
          rw [Duration.ceilMillis] at hpassed
          omega
        exact .inr (.inr (Nat.le_trans (Nat.le_of_not_lt hend) (secs_add_le hdue interval)))

end Facts.Refresh

end EdgeNode
