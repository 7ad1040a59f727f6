import EdgeNode.Proofs.Node.Boot
import EdgeNode.Proofs.Pool.Cancellation
import EdgeNode.Proofs.Pool.EarlyEnds
/-!
# The run of a node

A node that has booted stays until its tasks have ended.  Its agent server keeps it running, and on
a provisioned node the refresh of the facts does so too: both are tasks of its group under its token.
So a node returns when it is cancelled, and else only if all that keeps it running has ended early,
which `Node.AgentEnds` and `Node.RefreshEnds` say.  A node that waits to be provisioned is kept by
its agent server alone.
-/

namespace EdgeNode

open Relation

/-- The course that a framework lays down for its agent servers, if it does. -/
def Framework.course? : Framework → Option Course
  | .network => none
  | .scripted s => some s.course

namespace Node

variable {n : Node} {c : Collaborators} {p p' q : Pool} {stage stage' : Run} {b : Booted}
  {w₀ w w' : Run × Pool}

/-! ### The course of a run -/

lemma cancelled_prepare (n : Node) (h : Host) (target : ProvisioningTarget)
    (config? : Option Config) : (n.prepare h target config?).2.cancelled = h.cancelled := by
  have hselecting : (n.selecting h).cancelled = h.cancelled :=
    (Facts.affected_save ..).cancelled_eq
  rw [prepare_eq]
  split <;> exact hselecting

lemma cancelled_of_readies {boot : Boot} {h host : Host} (hreadies : n.Readies c h boot host) :
    host.cancelled = h.cancelled := by
  cases hreadies with
  | nothing => rfl
  | @prepares config? _ _ hprepared =>
    have hcancelled := n.cancelled_prepare h c.target config?
    rwa [hprepared] at hcancelled
  | certifies => rfl

/-- A boot interferes with nothing that is there. -/
lemma extends_of_bootStep {boot : Boot} {turn : BootTurn}
    (h : n.bootStep c p boot = (turn, p')) : p.Extends p' := by
  by_cases hready : ∃ b config broker, boot = .ready b config broker
  · -- the jobs work for a supervisor that is new with them
    obtain ⟨b, config, broker, rfl⟩ := hready
    cases turn_of_bootStep h with
    | undescribed => exact .refl p
    | @unreplicated _ _ _ topology _ _ _ hstarted | @replicated _ _ _ topology _ _ hstarted =>
      have hextends : p.Extends (p.startReplication n.group n.token b.role topology c.engine).2 :=
        .startReplication ..
      rwa [hstarted] at hextends
  · obtain ⟨host, hreadies, hlaunched⟩ := launched_of_bootStep h
    have hhost : p.Extends { p with host } := .host p (cancelled_of_readies hreadies)
    refine hhost.trans (.of_launched (hlaunched.mono fun x hadds => ?_))
    cases hadds with
    | supervised => exact absurd ⟨_, _, _, rfl⟩ hready
    | broker | adapter | supervisor | agent => trivial
    | runsBroker | provisioning | receiving | working | serving | refreshing =>
      exact fun _ => Work.noConfusion

/-- What a turn of a run comes to, by its stage. -/
inductive RunTurn (n : Node) (c : Collaborators) (p : Pool) :
    Run → Progress Run (Except Error Unit) → Pool → Prop
  | boots {boot boot' : Boot} {q : Pool} (h : n.bootStep c p boot = (.next boot', q)) :
    RunTurn n c p (.booting boot) (.next (.booting boot')) q
  | rests {boot : Boot} {wake : Option Nat} {q : Pool}
    (h : n.bootStep c p boot = (.wait wake, q)) : RunTurn n c p (.booting boot) (.wait wake) q
  | booted {boot : Boot} {b : Booted} {q : Pool} (h : n.bootStep c p boot = (.done (.ok b), q)) :
    RunTurn n c p (.booting boot) (.next (.draining (.ok b))) q
  | failed {boot : Boot} {e : Error} {q : Pool}
    (h : n.bootStep c p boot = (.done (.error e), q)) :
    RunTurn n c p (.booting boot) (.next (.draining (.error e))) (q.cancel n.token)
  | drains {booted : Except Error Booted} : RunTurn n c p (.draining booted) (.wait none) p
  | drained {booted : Except Error Booted} (h : p.running n.group = 0) :
    RunTurn n c p (.draining booted) (.done (booted.map fun _ => ())) p

lemma turn_of_runStep {turn : Progress Run (Except Error Unit)}
    (h : n.runStep c p stage = (turn, p')) : RunTurn n c p stage turn p' := by
  cases stage with
  | booting boot =>
    simp only [runStep] at h
    split at h
    · obtain ⟨rfl, rfl⟩ := Prod.mk.inj h
      exact .boots ‹_›
    · obtain ⟨rfl, rfl⟩ := Prod.mk.inj h
      exact .rests ‹_›
    · next booted q hbooted =>
      cases booted with
      | ok b =>
        obtain ⟨rfl, rfl⟩ := Prod.mk.inj h
        exact .booted hbooted
      | error e =>
        obtain ⟨rfl, rfl⟩ := Prod.mk.inj h
        exact .failed hbooted
  | draining booted =>
    simp only [runStep] at h
    split at h
    · next hnone =>
      obtain ⟨rfl, rfl⟩ := Prod.mk.inj h
      exact .drained hnone
    · obtain ⟨rfl, rfl⟩ := Prod.mk.inj h
      exact .drains

/-- A run returns what its boot came to, once no task is left. -/
lemma drained_of_runStep {result : Except Error Unit}
    (h : n.runStep c p stage = (.done result, p')) :
    p' = p ∧ p.running n.group = 0 ∧
      ∃ booted, stage = .draining booted ∧ result = booted.map fun _ => () := by
  cases hturn : turn_of_runStep h with
  | drained hnone => exact ⟨rfl, hnone, _, rfl, rfl⟩

/-- A run interferes with nothing that is there. -/
lemma extends_of_runStep {turn : Progress Run (Except Error Unit)}
    (h : n.runStep c p stage = (turn, p')) : p.Extends p' := by
  cases turn_of_runStep h with
  | boots hboot | rests hboot | booted hboot => exact extends_of_bootStep hboot
  | failed hboot => exact (extends_of_bootStep hboot).trans (.cancel _ _)
  | drains | drained _ => exact .refl p

/-- A step in the course of a run. -/
inductive Running (n : Node) (c : Collaborators) : Run × Pool → Run × Pool → Prop
  /-- The run goes on. -/
  | own {stage stage' : Run} {p p' : Pool} (h : n.runStep c p stage = (.next stage', p')) :
    Running n c (stage, p) (stage', p')
  /-- A task takes its turn, or others do something. -/
  | others {stage : Run} {p p' : Pool} (h : p.Goes p') : Running n c (stage, p) (stage, p')

/-- A course of a run. -/
abbrev Runs (n : Node) (c : Collaborators) : Run × Pool → Run × Pool → Prop :=
  ReflTransGen (Running n c)

lemma Running.goes (h : n.Running c w w') : w.2.Goes w'.2 := by
  cases h with
  | own h => exact .others (extends_of_runStep h)
  | others h => exact h

namespace Runs

lemma sound (h : n.Runs c w w') (hs : w.2.Sound) : w'.2.Sound := by
  induction h with
  | refl => exact hs
  | tail _ hstep ih => exact hstep.goes.sound ih

lemma cancelled (h : n.Runs c w w') {t : StopToken} (ht : w.2.isCancelled t) :
    w'.2.isCancelled t := by
  induction h with
  | refl => exact ht
  | tail _ hstep ih => exact hstep.goes.cancelled ih

lemma accounted (h : n.Runs c w w') {g : Option Group} {id : TaskId}
    (haccounted : w.2.Accounted g id) : w'.2.Accounted g id := by
  induction h with
  | refl => exact haccounted
  | tail _ hstep ih => exact hstep.goes.accounted ih

/-- A run that waits for the end of its tasks does nothing else. -/
lemma draining {booted : Except Error Booted} (h : n.Runs c (.draining booted, p) w) :
    w.1 = .draining booted := by
  induction h with
  | refl => rfl
  | tail _ hstep ih =>
    cases hstep with
    | own hturn =>
      cases turn_of_runStep hturn with
      | boots _ | booted _ | failed _ => exact absurd ih (by simp)
    | others _ => exact ih

end Runs

/-- Whoever waits for a run sees it go on as it can, and in the end its last turn. -/
lemma runs_of_runUpTo {fuel : Nat} {result : Except Error Unit}
    (h : Pool.runUpTo (n.runStep c) fuel p stage = (some result, p')) :
    ∃ stage' q q', n.Runs c (stage, p) (stage', q) ∧
      n.runStep c q stage' = (.done result, q') ∧ p' = q'.tick := by
  refine Pool.course_of_runUpTo .own ?_ ?_ ?_ ?_ h
  · exact fun hwait => .others (.others (extends_of_runStep hwait))
  · exact fun htask => .others (.turn htask)
  · exact fun _ p => .others (.others (.host p rfl))
  · exact fun _ p _ => .others (.others (.host p rfl))

/-! ### What keeps a node running -/

/-- A task of the node does something. -/
def Works (n : Node) (p : Pool) (Does : Activity → Prop) : Prop :=
  ∃ task ∈ p.tasks, task.group = some n.group ∧ task.token = n.token ∧ Does task.activity

/-- A task that goes on with the same kind of thing is there until it has ended. -/
lemma Works.goes {Does : Activity → Prop} (h : n.Works p Does) (hs : p.Sound) (hgoes : p.Goes p')
    (hnext : ∀ a a' q, Does a → p.stepActivity n.token a = (.next a', q) → Does a') :
    n.Works p' Does ∨ ∃ a o q, Does a ∧ p.stepActivity n.token a = (.done o, q) := by
  obtain ⟨task, htask, hgroup, htoken, hdoes⟩ := h
  rcases hgoes.mem_or_eq_turn hs htask with hkept | rfl
  · exact .inl ⟨task, hkept, hgroup, htoken, hdoes⟩
  · have hturned := p.turned task
    rcases hstep : p.stepActivity task.token task.activity with ⟨progress, q⟩
    cases progress with
    | next a =>
      rw [hturned.eq_resume hstep]
      have hresumed : { task with activity := a } ∈ (q.resume task.id a).tasks :=
        (Pool.mem_resume hs htask (Pool.sameLists_of_stepActivity hstep)).2 (.inl rfl)
      exact .inl ⟨_, hresumed, hgroup, htoken, hnext _ a q hdoes (htoken ▸ hstep)⟩
    | wait wake =>
      rw [hturned.eq_self hstep]
      exact .inl ⟨task, htask, hgroup, htoken, hdoes⟩
    | done o => exact .inr ⟨task.activity, o, q, hdoes, htoken ▸ hstep⟩

/-- To run an agent server. -/
def Serves (agent : Nat) (a : AgentServer) (activity : Activity) : Prop :=
  ∃ stage, activity = .serving agent stage ∧ a.ComesTo stage

/-- To refresh the facts of the node. -/
def Refreshes (n : Node) (activity : Activity) : Prop :=
  ∃ stage, activity = .refreshing n.options.factsRefreshInterval n.options n.paths stage

/-- An agent server that was built for a booted node. -/
structure BuiltFor (c : Collaborators) (b : Booted) (a : AgentServer) : Prop where
  config : a.config = b.prepared.server
  inProcess : a.inProcess = b.leader.isSome
  course : a.course = c.framework.course?

lemma BuiltFor.sameBuild {a a' : AgentServer} (h : BuiltFor c b a) (hsame : a.SameBuild a') :
    BuiltFor c b a' :=
  ⟨hsame.config.trans h.config, hsame.inProcess.trans h.inProcess, hsame.course.trans h.course⟩

lemma builtFor_of_build {h : Host} {a : AgentServer}
    (hbuild : AgentServer.build c.framework h b.prepared.server b.leader.isSome = .ok a) :
    BuiltFor c b a := by
  unfold AgentServer.build at hbuild
  split at hbuild
  · next hframework =>
    obtain rfl := Except.ok.inj hbuild
    exact ⟨rfl, rfl, by rw [hframework, Framework.course?]⟩
  · next hframework =>
    split at hbuild
    · contradiction
    · obtain rfl := Except.ok.inj hbuild
      exact ⟨rfl, rfl, by rw [hframework, Framework.course?]⟩

/-- The agent server of a booted node goes on, or else it is cancelled or ends early. -/
lemma Works.serves {a a₀ : AgentServer} (h : n.Works p (Serves b.agent a₀)) (hs : p.Sound)
    (ha : p.agents[b.agent]? = some a) (hsame : a₀.SameBuild a) (hgoes : p.Goes p') :
    p.isCancelled n.token ∨ a.EndsEarly p.host.files ∨ n.Works p' (Serves b.agent a₀) := by
  have hstep : ∀ stage, p.stepActivity n.token (.serving b.agent stage) =
      ((a.step p.host n.token stage).1.inside (.serving b.agent),
        { p with
          host := (a.step p.host n.token stage).2.1
          agents := p.agents.set b.agent (a.step p.host n.token stage).2.2 }) := by
    intro stage
    simp only [Pool.stepActivity, ha]
  have hmayGo : ∀ stage, a₀.ComesTo stage →
      a.MayGo p.host n.token (a.step p.host n.token stage).1 :=
    fun stage hstage => ((AgentServer.comesTo_iff hsame).2 hstage).step _ _
  have hworks := h.goes hs hgoes fun activity activity' q hserves hnext => by
    obtain ⟨stage, rfl, hstage⟩ := hserves
    rw [hstep] at hnext
    obtain ⟨stage', hnext', rfl⟩ := Progress.inside_eq_next (congrArg Prod.fst hnext)
    have hgo := hmayGo stage hstage
    rw [hnext'] at hgo
    exact ⟨stage', rfl, (AgentServer.comesTo_iff hsame).1 hgo⟩
  rcases hworks with hserves | ⟨activity, o, q, ⟨stage, rfl, hstage⟩, hdone⟩
  · exact .inr (.inr hserves)
  · rw [hstep] at hdone
    have hgo := hmayGo stage hstage
    rw [Progress.inside_eq_done (congrArg Prod.fst hdone)] at hgo
    rcases hgo with hcancelled | hearly
    · exact .inl hcancelled
    · exact .inr (.inl hearly)

/-- The refresh of the facts goes on, or else it is cancelled or ends early. -/
lemma Works.refreshes (h : n.Works p n.Refreshes) (hs : p.Sound) (hgoes : p.Goes p') :
    p.isCancelled n.token ∨ Facts.Refresh.EndsEarly n.options.factsRefreshInterval p.host ∨
      n.Works p' n.Refreshes := by
  have hworks := h.goes hs hgoes fun activity activity' q hrefreshes hnext => by
    obtain ⟨stage, rfl⟩ := hrefreshes
    obtain ⟨stage', -, rfl⟩ := Progress.inside_eq_next (congrArg Prod.fst hnext)
    exact ⟨stage', rfl⟩
  rcases hworks with hrefreshes | ⟨activity, o, q, ⟨stage, rfl⟩, hdone⟩
  · exact .inr (.inr hrefreshes)
  · have hdone' := Progress.inside_eq_done (congrArg Prod.fst hdone)
    rcases Facts.Refresh.endsEarly hdone' with hcancelled | hearly
    · exact .inl hcancelled
    · exact .inr (.inl hearly)

/-- A pool came up between two moments in the course of a run. -/
def Seen (n : Node) (c : Collaborators) (w₀ w : Run × Pool) (q : Pool) : Prop :=
  ∃ stage, n.Runs c w₀ (stage, q) ∧ n.Runs c (stage, q) w

lemma Seen.mono (h : n.Seen c w₀ w q) (hstep : n.Runs c w w') : n.Seen c w₀ w' q := by
  obtain ⟨stage, hbefore, hafter⟩ := h
  exact ⟨stage, hbefore, hafter.trans hstep⟩

/-- There was a moment at which the agent server of a booted node ends early. -/
def AgentEnds (n : Node) (c : Collaborators) (w₀ w : Run × Pool) (b : Booted) : Prop :=
  ∃ q a, n.Seen c w₀ w q ∧ q.agents[b.agent]? = some a ∧ BuiltFor c b a ∧
    a.EndsEarly q.host.files

/-- There was a moment at which the refresh of the facts ends early. -/
def RefreshEnds (n : Node) (c : Collaborators) (w₀ w : Run × Pool) : Prop :=
  ∃ q, n.Seen c w₀ w q ∧ Facts.Refresh.EndsEarly n.options.factsRefreshInterval q.host

lemma AgentEnds.mono (h : n.AgentEnds c w₀ w b) (hstep : n.Runs c w w') :
    n.AgentEnds c w₀ w' b := by
  obtain ⟨q, a, hseen, ha, hbuilt, hearly⟩ := h
  exact ⟨q, a, hseen.mono hstep, ha, hbuilt, hearly⟩

lemma RefreshEnds.mono (h : n.RefreshEnds c w₀ w) (hstep : n.Runs c w w') :
    n.RefreshEnds c w₀ w' := by
  obtain ⟨q, hseen, hearly⟩ := h
  exact ⟨q, hseen.mono hstep, hearly⟩

/-- What keeps a booted node running is there, was cancelled or had reason to end early. -/
structure Kept (n : Node) (c : Collaborators) (w₀ w : Run × Pool) (b : Booted)
    (a₀ : AgentServer) : Prop where
  built : BuiltFor c b a₀
  there : ∃ a, w.2.agents[b.agent]? = some a ∧ a₀.SameBuild a
  agent : w.2.isCancelled n.token ∨ n.AgentEnds c w₀ w b ∨ n.Works w.2 (Serves b.agent a₀)
  refresh : b.prepared.mode = .operational →
    w.2.isCancelled n.token ∨ n.RefreshEnds c w₀ w ∨ n.Works w.2 n.Refreshes

lemma Kept.goes {a₀ : AgentServer} (h : n.Kept c w₀ w b a₀) (hs : w.2.Sound)
    (hstart : n.Runs c w₀ w) (hstep : n.Running c w w') : n.Kept c w₀ w' b a₀ := by
  have hlater : n.Runs c w w' := .single hstep
  have hseen : n.Seen c w₀ w' w.2 := ⟨w.1, hstart, hlater⟩
  obtain ⟨a, ha, hsame⟩ := h.there
  refine ⟨h.built, ?_, ?_, fun hmode => ?_⟩
  · obtain ⟨a', ha', hsame'⟩ := hstep.goes.keepsAgents b.agent a ha
    exact ⟨a', ha', hsame.trans hsame'⟩
  · rcases h.agent with hcancelled | hends | hserves
    · exact .inl (hlater.cancelled hcancelled)
    · exact .inr (.inl (hends.mono hlater))
    · rcases hserves.serves hs ha hsame hstep.goes with hcancelled | hearly | hserves'
      · exact .inl (hlater.cancelled hcancelled)
      · exact .inr (.inl ⟨w.2, a, hseen, ha, h.built.sameBuild hsame, hearly⟩)
      · exact .inr (.inr hserves')
  · rcases h.refresh hmode with hcancelled | hends | hrefreshes
    · exact .inl (hlater.cancelled hcancelled)
    · exact .inr (.inl (hends.mono hlater))
    · rcases hrefreshes.refreshes hs hstep.goes with hcancelled | hearly | hrefreshes'
      · exact .inl (hlater.cancelled hcancelled)
      · exact .inr (.inl ⟨w.2, hseen, hearly⟩)
      · exact .inr (.inr hrefreshes')

/-- A boot that has ended well leaves all running that keeps its node. -/
lemma kept_of_bootStep {boot : Boot} (h : n.bootStep c p boot = (.done (.ok b), p')) :
    ∃ a, n.Kept c w₀ (.draining (.ok b), p') b a := by
  cases turn_of_bootStep h with
  | @served prepared leader agent q hserver =>
    obtain ⟨a, a', hbuild, hsame, ha', task, htask, hgroup, htoken, hactivity⟩ :=
      Pool.startServer_ok hserver
    have hserves : n.Works q (Serves agent a) :=
      ⟨task, htask, hgroup, htoken, .starting, hactivity, trivial⟩
    by_cases hmode : prepared.mode = .operational
    · rw [if_pos hmode]
      have hextends : q.Extends (q.launchRefresh n.group n.token n.options.factsRefreshInterval
        n.options n.paths) := .launchRefresh ..
      refine ⟨a, builtFor_of_build hbuild, ⟨a', ha', hsame⟩, .inr (.inr ?_), fun _ => .inr (.inr ?_)⟩
      · exact ⟨task, hextends.mem htask, hgroup, htoken, .starting, hactivity, trivial⟩
      · exact ⟨_, List.mem_append_right _ (List.mem_singleton_self _), rfl, rfl, .starting, rfl⟩
    · rw [if_neg hmode]
      exact ⟨a, builtFor_of_build hbuild, ⟨a', ha', hsame⟩, .inr (.inr hserves),
        fun hoperational => absurd hoperational hmode⟩

/-- The boot of a run has ended, before the run or by a turn in its course. -/
def BootOver (n : Node) (c : Collaborators) (w₀ : Run × Pool) (booted : Except Error Booted) :
    Prop :=
  w₀.1 = .draining booted ∨ ∃ boot q q', n.Runs c w₀ (.booting boot, q) ∧
    n.bootStep c q boot = (.done booted, q')

/-- What holds at each stage of a run. -/
inductive Holds (n : Node) (c : Collaborators) (w₀ : Run × Pool) : Run × Pool → Prop
  | booting {boot : Boot} {p : Pool} : Holds n c w₀ (.booting boot, p)
  | failed {e : Error} {p : Pool} (hover : n.BootOver c w₀ (.error e))
    (h : p.isCancelled n.token) : Holds n c w₀ (.draining (.error e), p)
  | booted {b : Booted} {a : AgentServer} {p : Pool} (hover : n.BootOver c w₀ (.ok b))
    (h : n.Kept c w₀ (.draining (.ok b), p) b a) : Holds n c w₀ (.draining (.ok b), p)

lemma Holds.step (h : n.Holds c w₀ w) (hs : w.2.Sound) (hstart : n.Runs c w₀ w)
    (hstep : n.Running c w w') : n.Holds c w₀ w' := by
  have hgoes := hstep.goes
  cases h with
  | booting =>
    cases hstep with
    | own hturn =>
      cases turn_of_runStep hturn with
      | boots _ => exact .booting
      | booted hboot =>
        obtain ⟨a, hkept⟩ := kept_of_bootStep hboot
        exact .booted (.inr ⟨_, _, _, hstart, hboot⟩) hkept
      | failed hboot =>
        exact .failed (.inr ⟨_, _, _, hstart, hboot⟩) (Pool.isCancelled_cancel ..)
    | others _ => exact .booting
  | failed hover hcancelled =>
    cases hstep with
    | own hturn => cases turn_of_runStep hturn
    | others _ => exact .failed hover (hgoes.cancelled hcancelled)
  | booted hover hkept =>
    have hkept' := hkept.goes hs hstart hstep
    cases hstep with
    | own hturn => cases turn_of_runStep hturn
    | others _ => exact .booted hover hkept'

lemma holds_of_runs (hbegins : n.Holds c w₀ w₀) (hs : w₀.2.Sound) (h : n.Runs c w₀ w) :
    n.Holds c w₀ w := by
  induction h with
  | refl => exact hbegins
  | tail hstart hstep ih => exact ih.step (Runs.sound hstart hs) hstart hstep

/-! ### What a run returns -/

/-- How the boot of a run ended: for want of its plugins, or by a turn in the course of the run. -/
def BootEnds (n : Node) (c : Collaborators) (start : Pool) (booted : Except Error Booted) : Prop :=
  match n.loadPlugins with
  | (.error e, _) => booted = .error e
  | (.ok _, n) => ∃ boot p p', n.Runs c (.booting .starting, start) (.booting boot, p) ∧
    n.bootStep c p boot = (.done booted, p')

/-- How a node stands when its run returns after a boot that ended so. -/
structure Returns (n : Node) (c : Collaborators) (w₀ w : Run × Pool)
    (booted : Except Error Booted) : Prop where
  /-- It has no task left. -/
  drained : w.2.running n.group = 0
  /-- Of every task it ever had it is known how it ended. -/
  ended : ∀ q, n.Seen c w₀ w q → ∀ task ∈ q.tasks, task.group = some n.group →
    ∃ o, (task.id, o) ∈ w.2.results
  /-- It is cancelled if it did not boot. -/
  failed : ∀ e, booted = .error e → w.2.isCancelled n.token
  /-- It is cancelled if it did boot, unless all that keeps it running had reason to end early. -/
  kept : ∀ b, booted = .ok b → w.2.isCancelled n.token ∨
    n.AgentEnds c w₀ w b ∧ (b.prepared.mode = .operational → n.RefreshEnds c w₀ w)

lemma returns_of_holds {booted : Except Error Booted} (h : n.Holds c w₀ (.draining booted, p))
    (hdrained : p.running n.group = 0) : n.Returns c w₀ (.draining booted, p) booted := by
  refine ⟨hdrained, ?_, ?_, ?_⟩
  · intro q hseen task htask hgroup
    obtain ⟨stage, -, hlater⟩ := hseen
    have haccounted : p.Accounted (some n.group) task.id :=
      hlater.accounted (.inl ⟨task, htask, rfl, hgroup⟩)
    exact haccounted.ended hdrained
  · rintro e rfl
    cases h with
    | failed _ hcancelled => exact hcancelled
  · rintro b rfl
    cases h with
    | booted _ hkept =>
      have hagent := hkept.agent
      have hrefresh := hkept.refresh
      have hnone : ∀ Does, ¬ n.Works p Does := by
        rintro Does ⟨task, htask, hgroup, -⟩
        exact Pool.running_eq_zero_iff.1 hdrained task htask hgroup
      simp only [hnone, or_false] at hagent hrefresh
      by_cases hcancelled : p.isCancelled n.token
      · exact .inl hcancelled
      · exact .inr ⟨hagent.resolve_left hcancelled,
          fun hmode => (hrefresh hmode).resolve_left hcancelled⟩

section Start

variable {n' : Node} {start : Pool}

lemma startRun_error {e : Error} (h : n.loadPlugins = (.error e, n')) :
    n.startRun start = (.draining (.error e), n', start.cancel n'.token) := by
  rw [startRun, h]
  rfl

lemma startRun_ok {loaded : Bool} (h : n.loadPlugins = (.ok loaded, n')) :
    n.startRun start = (.booting .starting, n', start) := by
  rw [startRun, h]

/-- A run begins with nothing to keep. -/
lemma holds_of_startRun {p₀ : Pool} {stage₀ : Run} (h : n.startRun start = (stage₀, n', p₀)) :
    start.Extends p₀ ∧ n'.Holds c (stage₀, p₀) (stage₀, p₀) := by
  rcases hplugins : n.loadPlugins with ⟨_ | _, _⟩
  · rw [startRun_error hplugins] at h
    obtain ⟨rfl, rfl, rfl⟩ := by simpa only [Prod.mk.injEq] using h
    exact ⟨.cancel _ _, .failed (.inl rfl) (Pool.isCancelled_cancel ..)⟩
  · rw [startRun_ok hplugins] at h
    obtain ⟨rfl, rfl, rfl⟩ := by simpa only [Prod.mk.injEq] using h
    exact ⟨.refl _, .booting⟩

lemma bootEnds_of_over {p₀ : Pool} {stage₀ : Run} {booted : Except Error Booted}
    (h : n.startRun start = (stage₀, n', p₀)) (hover : n'.BootOver c (stage₀, p₀) booted) :
    n.BootEnds c start booted := by
  rcases hplugins : n.loadPlugins with ⟨_ | _, _⟩
  · rw [startRun_error hplugins] at h
    obtain ⟨rfl, rfl, rfl⟩ := by simpa only [Prod.mk.injEq] using h
    rw [BootEnds, hplugins]
    rcases hover with hsame | ⟨boot, q, q', hruns, -⟩
    · exact (Run.draining.inj hsame).symm
    · exact absurd hruns.draining (by simp)
  · rw [startRun_ok hplugins] at h
    obtain ⟨rfl, rfl, rfl⟩ := by simpa only [Prod.mk.injEq] using h
    rw [BootEnds, hplugins]
    rcases hover with hsame | hboot
    · contradiction
    · exact hboot

end Start

/-- **What a run returns.**  Whoever waits for a run sees the last turn of some course of it.  In every
course a run whose boot has ended returns as soon as no task of the node is left, and it returns only
then.  With an error it returns that of its boot; of every task the node ever had it is known how it
ended; and the node is cancelled, unless it had booted and its agent server had reason to end early,
and on a provisioned node the refresh of its facts too.  A node that waits to be provisioned has its
agent server alone: nothing else keeps it running. -/
theorem run_returns (n : Node) (c : Collaborators) {n' : Node} {stage₀ : Run} {start p₀ : Pool}
    (hsound : start.Sound) (hstart : n.startRun start = (stage₀, n', p₀)) :
    (∀ result n'' p, n.run c start = (some result, n'', p) → n'' = n' ∧
      ∃ stage q q', n'.Runs c (stage₀, p₀) (stage, q) ∧
        n'.runStep c q stage = (.done result, q') ∧ p = q'.tick) ∧
    ∀ stage p, n'.Runs c (stage₀, p₀) (stage, p) →
      (∀ booted, stage = .draining booted → p.running n'.group = 0 →
        ∃ result, n'.runStep c p stage = (.done result, p)) ∧
      ∀ result p', n'.runStep c p stage = (.done result, p') →
        ∃ booted, n.BootEnds c start booted ∧ result = booted.map (fun _ => ()) ∧
          n'.Returns c (stage₀, p₀) (stage, p) booted := by
  constructor
  · intro result n'' p hrun
    rw [run, hstart] at hrun
    obtain ⟨hresult, rfl, hpool⟩ := by simpa only [Prod.mk.injEq] using hrun
    exact ⟨rfl, runs_of_runUpTo (Prod.ext hresult hpool)⟩
  · intro stage p hruns
    constructor
    · rintro booted rfl hdrained
      exact ⟨_, if_pos hdrained⟩
    · intro result p' hdone
      obtain ⟨hextends, hbegins⟩ := holds_of_startRun (c := c) hstart
      have hholds := holds_of_runs hbegins (hsound.extended hextends) hruns
      obtain ⟨-, hdrained, booted, rfl, rfl⟩ := drained_of_runStep hdone
      refine ⟨booted, ?_, rfl, returns_of_holds hholds hdrained⟩
      cases hholds with
      | failed hover _ | booted hover _ => exact bootEnds_of_over hstart hover

/-- A node that waits to be provisioned. -/
def unprovisioned : Node where
  options := {}
  paths := .ofFiles "/etc/server.conf" "/var"
  plugins := { loaded := true }
  token := 0
  group := 0

/-- Its files. -/
def unprovisionedPool : Pool where
  host :=
    { files :=
        { entries :=
            [(["etc"], .directory 0o755), (["var"], .directory 0o755),
             (["etc", "provisioning.jwt"],
              .file (Bytes.ofText "provisioning.token") 0o600)] } }

/-- An agent server that fails at once. -/
def failing : Collaborators where
  framework := .scripted { course := .ends .zero (.error (.config "status file is gone")) }

/-- The node returns, and was not cancelled: its agent server had ended. -/
theorem run_returns_unprovisioned :
    unprovisionedPool.Sound ∧
    unprovisioned.startRun unprovisionedPool = (.booting .starting, unprovisioned, unprovisionedPool) ∧
    (unprovisioned.run failing unprovisionedPool).1 = some (.ok ()) ∧
    (unprovisioned.run failing unprovisionedPool).2.2.isCancelled unprovisioned.token = false ∧
    ∃ w b, unprovisioned.AgentEnds failing (.booting .starting, unprovisionedPool) w b := by
  have hsound : unprovisionedPool.Sound := ⟨List.Pairwise.nil, by simp [unprovisionedPool],
    by simp [unprovisionedPool]⟩
  have hstart : unprovisioned.startRun unprovisionedPool
      = (.booting .starting, unprovisioned, unprovisionedPool) := rfl
  have hevaluated : (unprovisioned.run failing unprovisionedPool).1 = some (.ok ()) ∧
      (unprovisioned.run failing unprovisionedPool).2.2.isCancelled unprovisioned.token = false := by
    decide +kernel
  obtain ⟨hanswer, hfree⟩ := hevaluated
  refine ⟨hsound, hstart, hanswer, hfree, ?_⟩
  obtain ⟨hrun, hreturns⟩ := run_returns unprovisioned failing hsound hstart
  -- what follows must not run the node once more
  generalize unprovisioned.run failing unprovisionedPool = answer at hanswer hfree hrun
  obtain ⟨result?, n', p⟩ := answer
  subst hanswer
  obtain ⟨-, stage, q, q', hcourse, hdone, rfl⟩ := hrun _ _ _ rfl
  obtain ⟨booted, -, hresult, hlast⟩ := (hreturns stage q hcourse).2 _ q' hdone
  obtain ⟨rfl, -⟩ := drained_of_runStep hdone
  cases booted with
  | error e => contradiction
  | ok b =>
    rcases hlast.kept b rfl with hcancelled | ⟨hagent, -⟩
    · exact absurd (hfree.symm.trans hcancelled) (by simp)
    · exact ⟨_, b, hagent⟩

end Node

end EdgeNode
