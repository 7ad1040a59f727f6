import EdgeNode.Proofs.Broker.Lifecycle
import EdgeNode.Proofs.Pool.Tasks
import EdgeNode.Proofs.Topology.Provided
/-!
# The start of a broker

Whoever starts a broker launches it, waits for it, has its resources made by a task and starts its
data adapters.  Meanwhile everything else goes on: the run of the broker, the making of the
resources, the adapters, publications of others and cancellation.  `Startup.Step` is a step of any
of them, with what is seen of it from outside.

The state of the manager is written by several of them.  What the states promise is kept all the
same (`Startup.Sound`): the resources exist in a broker that is `running`, and nothing that needs an
accepting broker was tried before the broker was seen to accept connections.
-/

namespace EdgeNode

/-! ### What the parts of a manager change -/

namespace BrokerManager

variable (m : BrokerManager) (h : Host) (t : StopToken)

/-- The run of a broker serves the same store, and enters no state but `failed`. -/
lemma runStep_kept (stage : RunStage) : (m.runStep h t stage).2.2.url = m.url ∧
    ((m.runStep h t stage).2.2.state = m.state ∨ (m.runStep h t stage).2.2.state = .failed) := by
  have hafter : ∀ result, (m.afterRun result).url = m.url ∧
      ((m.afterRun result).state = m.state ∨ (m.afterRun result).state = .failed) := by
    intro result
    cases result with
    | error e => exact ⟨rfl, .inr rfl⟩
    | ok _ | crash => exact ⟨rfl, .inl rfl⟩
  cases stage with
  | launching =>
    simp only [runStep]
    split
    · exact ⟨rfl, .inl rfl⟩
    · split
      · exact ⟨rfl, .inl rfl⟩
      · exact hafter _
  | startingUp wake =>
    simp only [runStep]
    split <;> exact ⟨rfl, .inl rfl⟩
  | serving =>
    simp only [runStep]
    split <;> exact ⟨rfl, .inl rfl⟩
  | course start =>
    simp only [runStep]
    split
    · exact ⟨rfl, .inl rfl⟩
    · split
      · exact hafter _
      · exact ⟨rfl, .inl rfl⟩

lemma provisionStep_url (spec : TopologySpec) (stage : Provisioning) :
    (m.provisionStep h t spec stage).2.2.url = m.url := by
  unfold provisionStep
  split
  · next result _ _ => cases result <;> rfl
  · rfl
  · rfl

lemma waitStep_url (stage : WaitStage) : (m.waitStep h t stage).2.url = m.url := by
  cases stage with
  | entering => rfl
  | asking =>
    simp only [waitStep]
    split <;> rfl
  | pausing wake =>
    simp only [waitStep]
    split <;> rfl

variable {m h t} {spec : TopologySpec} {stage stage' : Provisioning}

lemma covers_provisionStep (hcovers : stage.Covers (h.store m.url) spec)
    (hnext : (m.provisionStep h t spec stage).1 = .next stage') :
    stage'.Covers ((m.provisionStep h t spec stage).2.1.store m.url) spec := by
  unfold provisionStep at hnext ⊢
  split at hnext
  · contradiction
  · next hstep =>
    obtain rfl := Progress.next.inj hnext
    exact Provisioning.covers_step hcovers hstep
  · contradiction

lemma provides_of_makes (hcovers : stage.Covers (h.store m.url) spec)
    (hmakes : m.Makes h t spec stage) :
    ((m.provisionStep h t spec stage).2.1.store m.url).Provides spec := by
  obtain ⟨report, hdone⟩ := hmakes
  unfold provisionStep
  split
  · next hstep =>
    rw [hstep] at hdone
    obtain rfl := Progress.done.inj hdone
    exact Provisioning.provides_of_step hcovers hstep
  · next hstep =>
    rw [hstep] at hdone
    contradiction
  · next hstep =>
    rw [hstep] at hdone
    contradiction

end BrokerManager

namespace Pool

variable {p p' : Pool} {id : Nat} {m : BrokerManager} {task new : Task}

lemma getElem?_stepBroker {σ : Type} {other : Nat}
    {step : BrokerManager → Progress σ (Outcome Error Unit) × Host × BrokerManager}
    (hm : p.brokers[id]? = some m) :
    (p.stepBroker other step).2.brokers[id]? = some (if other = id then (step m).2.2 else m) := by
  have hid : id < p.brokers.length := (List.getElem?_eq_some_iff.1 hm).1
  by_cases hother : other = id
  · subst hother
    simp only [stepBroker, hm, List.getElem?_set_self hid, if_pos]
  · rw [if_neg hother]
    unfold stepBroker
    split
    · exact hm
    · simp only [List.getElem?_set_ne hother]
      exact hm

/-- A task leaves a manager alone, or it runs the broker, or it makes the resources. -/
lemma broker_stepActivity (hm : p.brokers[id]? = some m) (t : StopToken) (a : Activity) :
    ∃ m', (p.stepActivity t a).2.brokers[id]? = some m' ∧ m'.url = m.url ∧
      (m'.state = m.state ∨ m'.state = .failed ∨ ∃ spec stage, a = .provisioning id spec stage ∧
        m.Makes p.host t spec stage) := by
  cases a with
  | broker other stage =>
    refine ⟨_, getElem?_stepBroker hm, ?_⟩
    split
    · obtain ⟨hurl, hstate⟩ := m.runStep_kept p.host t stage
      exact ⟨hurl, hstate.imp_right .inl⟩
    · exact ⟨rfl, .inl rfl⟩
  | provisioning other spec stage =>
    refine ⟨_, getElem?_stepBroker hm, ?_⟩
    split
    · next hother =>
      subst hother
      refine ⟨m.provisionStep_url p.host t spec stage, ?_⟩
      by_cases hmakes : m.Makes p.host t spec stage
      · exact .inr (.inr ⟨spec, stage, rfl, hmakes⟩)
      · exact .inl (BrokerManager.provisionStep_state hmakes)
    · exact ⟨rfl, .inl rfl⟩
  | cancelling target wake =>
    refine ⟨m, ?_, rfl, .inl rfl⟩
    simp only [stepActivity]
    split <;> exact hm
  | copying run => exact ⟨m, hm, rfl, .inl rfl⟩
  | supervised other job stage =>
    refine ⟨m, ?_, rfl, .inl rfl⟩
    simp only [stepActivity]
    split <;> exact hm
  | receiving other | working other =>
    refine ⟨m, ?_, rfl, .inl rfl⟩
    simp only [stepActivity]
    rw [brokers_stepAdapter]
    exact hm
  | serving other stage =>
    refine ⟨m, ?_, rfl, .inl rfl⟩
    simp only [stepActivity]
    split <;> exact hm
  | refreshing interval o paths stage => exact ⟨m, hm, rfl, .inl rfl⟩

/-- Only who makes the resources goes on with that. -/
lemma provisioning_of_next {t : StopToken} {a : Activity} {spec : TopologySpec}
    {stage' : Provisioning} (hm : p.brokers[id]? = some m)
    (h : (p.stepActivity t a).1 = .next (.provisioning id spec stage')) :
    ∃ stage, a = .provisioning id spec stage ∧
      (m.provisionStep p.host t spec stage).1 = .next stage' := by
  cases stepActivity_next h with
  | provisioning _ _ stage =>
    obtain ⟨stage₁, hnext, hsame⟩ := Progress.inside_eq_next h
    obtain ⟨-, -, rfl⟩ := Activity.provisioning.inj hsame
    refine ⟨stage, rfl, ?_⟩
    simpa only [stepBroker, hm] using hnext

lemma host_stepActivity_provisioning {t : StopToken} {spec : TopologySpec} {stage : Provisioning}
    (hm : p.brokers[id]? = some m) :
    (p.stepActivity t (.provisioning id spec stage)).2.host
      = (m.provisionStep p.host t spec stage).2.1 := by
  simp only [stepActivity, stepBroker, hm]

lemma Turned.mem_streamNames (h : p.Turned task p') {url name : String}
    (hname : name ∈ (p.host.store url).streamNames) : name ∈ (p'.host.store url).streamNames := by
  rcases h.shared with rfl | ⟨hhost, -⟩
  · exact hname
  · rw [hhost]
    rcases p.affected_stepActivity task.token task.activity with haffected | ⟨target, hcancel⟩
    · exact haffected.mem_streamNames hname
    · rw [hcancel]
      exact hname

/-! ### What data adapters change -/

lemma getElem?_launchProvisioning (hm : p.brokers[id]? = some m) (g : Group) (t : StopToken)
    (spec : TopologySpec) :
    (p.launchProvisioning g t id spec).brokers[id]? = some (m.enter .provisioningTopology) := by
  simp only [launchProvisioning, hm]
  simp only [spawn, modifyBroker, List.getElem?_modify, hm]
  simp

/-- A data adapter that is started, or fails to start, is none of the manager's concern: it works on
a bus, and the tasks that it launches make no resources. -/
structure StartsAdapter (p p' : Pool) : Prop where
  affected : ∀ writes, Host.Affected writes p.host p'.host
  tasks : ∀ new ∈ p'.tasks, new ∈ p.tasks ∨ ∀ id, new.activity.work ≠ .provisioning id
  broker : ∀ (id : Nat) (m : BrokerManager), p.brokers[id]? = some m →
    ∃ adapterStarts, p'.brokers[id]? = some { m with adapterStarts }

/-- Anything but a task that makes resources. -/
def Unprovisioning : Addition → Prop
  | .task a => ∀ id, a.work ≠ .provisioning id
  | _ => True

lemma adapting_unprovisioning : Addition.Adapting Unprovisioning :=
  ⟨trivial, fun _ _ => Work.noConfusion, fun _ _ => Work.noConfusion⟩

lemma startsAdapter_startAdapter (g : Group) (t : StopToken) (id : Nat) (config : AdapterConfig)
    (kind : AdapterKind) : p.StartsAdapter (p.startAdapter g t id config kind) := by
  have hlaunched := Launched.startAdapter adapting_unprovisioning p g t id config kind
  refine ⟨fun _ => hlaunched.affected, fun _ => hlaunched.mem_tasks, fun other m hm => ?_⟩
  cases kind with
  | recorder name fails =>
    simp only [startAdapter, modifyBroker, List.getElem?_modify, hm]
    by_cases hother : id = other
    · exact ⟨m.adapterStarts ++ [name ++ " " ++ config.ingestTopic], by simp [hother]⟩
    · exact ⟨m.adapterStarts, by simp [hother]⟩
  | registration =>
    refine ⟨m.adapterStarts, ?_⟩
    simp only [startAdapter]
    split
    · exact hm
    · rw [brokers_startRegistration]
      exact hm

end Pool

/-! ### The start -/

namespace Startup

/-- Where the start of a broker stands. -/
inductive Stage where
  /-- It waits for the broker. -/
  | waiting (stage : BrokerManager.WaitStage)
  /-- The broker accepts connections; its resources are to be made. -/
  | following
  /-- Some data adapters are still to be started. -/
  | starting (left : List (AdapterConfig × AdapterKind))
  /-- It has returned. -/
  | returned (result : Except Error Unit)

/-- The stage that a step of the wait leads to. -/
def Stage.after (stage : BrokerManager.WaitStage) :
    Progress BrokerManager.WaitStage (Except Error Unit) → Stage
  | .next stage => .waiting stage
  | .wait _ => .waiting stage
  | .done (.ok ()) => .following
  | .done (.error e) => .returned (.error e)

/-- Whether the wait has come to a good end. -/
def Stage.isPast : Stage → Bool
  | .waiting _ => false
  | .following => true
  | .starting _ => true
  | .returned result => result.isOk

/-- What is seen of a step. -/
inductive Event where
  /-- The broker is asked whether it was started. -/
  | asks (started : Bool)
  /-- A connection for making the resources is asked for. -/
  | connects
  /-- A data adapter is started. -/
  | startsAdapter (config : AdapterConfig) (kind : AdapterKind)
  /-- Something else happens. -/
  | goesOn

/-- What is seen of a step of the wait. -/
def Event.ofWait (m : BrokerManager) (now : Nat) : BrokerManager.WaitStage → Event
  | .asking => .asks (m.isReady now)
  | _ => .goesOn

/-- What is seen of the turn of a task. -/
def Event.ofTask (id : Nat) (task : Task) : Event :=
  match task.activity with
  | .provisioning other _ (.during _ _ .connecting) => if other = id then .connects else .goesOn
  | _ => .goesOn

/-- An event that needs a broker that was started. -/
def Event.needsBroker : Event → Bool
  | .connects => true
  | .startsAdapter .. => true
  | _ => false

/-- The pool in which a broker is started, and where the start stands. -/
structure Situation where
  /-- The pool. -/
  pool : Pool
  /-- Where the start stands. -/
  stage : Stage

/-- What others do.  They publish, cancel and let time pass, launch what they like and change when
the broker accepts connections; they take no stream away and have nothing to do with its manager. -/
structure Elsewhere (id : Nat) (p p' : Pool) : Prop where
  broker : ∀ m, p.brokers[id]? = some m → ∃ kind, p'.brokers[id]? = some { m with kind }
  tasks : ∀ task ∈ p'.tasks, task.activity.work = .provisioning id → task ∈ p.tasks
  streams : ∀ url, ∀ name ∈ (p.host.store url).streamNames, name ∈ (p'.host.store url).streamNames

namespace Elsewhere

/-- Time passes, and tokens are cancelled. -/
lemma host (id : Nat) {p : Pool} (host : Host) (hnetwork : host.network = p.host.network) :
    Elsewhere id p { p with host } := by
  refine ⟨fun m hm => ⟨m.kind, hm⟩, fun _ htask _ => htask, fun url name hname => ?_⟩
  rw [Host.store, hnetwork]
  exact hname

/-- A store is asked for something, such as to take a message. -/
lemma request (id : Nat) (p : Pool) (url : String) (now : Nat) (r : Store.Request) :
    Elsewhere id p { p with host := (p.host.withStore url fun s => ((), s.serve now r)).2 } := by
  refine ⟨fun m hm => ⟨m.kind, hm⟩, fun _ htask _ => htask, fun other name hname => ?_⟩
  by_cases hurl : url = other
  · subst hurl
    rw [Host.store_withStore_self]
    exact Store.mem_streamNames_serve hname now r
  · rw [Host.store_withStore_of_ne hurl]
    exact hname

/-- From now on the broker accepts connections at other times. -/
lemma behaves (id : Nat) (p : Pool) (kind : BrokerKind) :
    Elsewhere id p (p.modifyBroker id fun m => { m with kind }) := by
  refine ⟨fun m hm => ⟨kind, ?_⟩, fun _ htask _ => htask, fun _ _ hname => hname⟩
  simp [Pool.modifyBroker, hm]

end Elsewhere

/-- A step of the start, of a task or of others.  The adapters are started in any order. -/
inductive Step (id : Nat) (g : Group) (t : StopToken) (spec : TopologySpec) :
    Situation → Event → Situation → Prop
  | waits {p : Pool} {m : BrokerManager} {stage : BrokerManager.WaitStage}
    (hm : p.brokers[id]? = some m) :
    Step id g t spec ⟨p, .waiting stage⟩ (.ofWait m p.host.uptime stage)
      ⟨(p.waitStep t id stage).2, .after stage (p.waitStep t id stage).1⟩
  | follows {p : Pool} {m : BrokerManager}
    (hm : (p.launchProvisioning g t id spec).brokers[id]? = some m) :
    Step id g t spec ⟨p, .following⟩ .goesOn
      ⟨p.launchProvisioning g t id spec, .starting m.runnableAdapters⟩
  | starts {p : Pool} {left : List (AdapterConfig × AdapterKind)} {i : Nat}
    {config : AdapterConfig} {kind : AdapterKind} (hnext : left[i]? = some (config, kind)) :
    Step id g t spec ⟨p, .starting left⟩ (.startsAdapter config kind)
      ⟨p.startAdapter g t id config kind, .starting (left.eraseIdx i)⟩
  | returns {p : Pool} : Step id g t spec ⟨p, .starting []⟩ .goesOn ⟨p, .returned (.ok ())⟩
  | turn {p : Pool} {stage : Stage} {task : Task} (htask : task ∈ p.tasks) :
    Step id g t spec ⟨p, stage⟩ (.ofTask id task) ⟨p.turn task, stage⟩
  | elsewhere {p p' : Pool} {stage : Stage} (h : Elsewhere id p p') :
    Step id g t spec ⟨p, stage⟩ .goesOn ⟨p', stage⟩

/-- Steps, one after another. -/
inductive Course (id : Nat) (g : Group) (t : StopToken) (spec : TopologySpec) (s : Situation) :
    List Event → Situation → Prop
  | start : Course id g t spec s [] s
  | step {events : List Event} {e : Event} {s' s'' : Situation}
    (before : Course id g t spec s events s') (last : Step id g t spec s' e s'') :
    Course id g t spec s (events ++ [e]) s''

variable {id : Nat} {g : Group} {t : StopToken} {spec : TopologySpec} {s₀ s s' : Situation}
  {events : List Event} {e : Event} {url : String} {p p' : Pool}

/-! ### The node's own start is such a course -/

lemma course_startAdapters {left : List (AdapterConfig × AdapterKind)}
    (h : Course id g t spec s₀ events ⟨p, .starting left⟩) :
    ∃ more, Course id g t spec s₀ (events ++ more)
      ⟨Pool.startAdapters g t id left p, .starting []⟩ := by
  induction left generalizing p events with
  | nil => exact ⟨[], by rwa [List.append_nil]⟩
  | cons adapter rest ih =>
    obtain ⟨config, kind⟩ := adapter
    obtain ⟨more, hmore⟩ := ih (h.step (.starts (i := 0) rfl))
    exact ⟨.startsAdapter config kind :: more, by simpa [Pool.startAdapters] using hmore⟩

/-- Where a step of the start of a launched broker leads to. -/
def Stage.ofReady (stage : BrokerManager.WaitStage) :
    Progress BrokerManager.WaitStage (Except Error Unit) → Stage
  | .next stage => .waiting stage
  | .wait _ => .waiting stage
  | .done result => .returned result

lemma Stage.after_eq_ofReady {stage : BrokerManager.WaitStage}
    {progress : Progress BrokerManager.WaitStage (Except Error Unit)}
    (h : progress ≠ .done (.ok ())) : Stage.after stage progress = .ofReady stage progress := by
  cases progress with
  | next _ | wait _ => rfl
  | done result =>
    cases result with
    | ok _ => exact absurd rfl h
    | error e => rfl

/-- What a node does in one go when its broker accepts connections is a course of these steps. -/
theorem course_readyStep {stage : BrokerManager.WaitStage} (hid : id < p.brokers.length)
    (h : Course id g t spec s₀ events ⟨p, .waiting stage⟩) :
    ∃ more, Course id g t spec s₀ (events ++ more)
      ⟨(p.readyStep g t id spec stage).2, .ofReady stage (p.readyStep g t id spec stage).1⟩ := by
  have hm : p.brokers[id]? = some p.brokers[id] := List.getElem?_eq_getElem hid
  have hwait := h.step (.waits hm)
  have hm' : (p.waitStep t id stage).2.brokers[id]?
      = some (p.brokers[id].waitStep p.host t stage).2 := by
    rw [Pool.waitStep_eq hm]
    exact List.getElem?_set_self hid
  unfold Pool.readyStep
  split
  · next q heq =>
    rw [heq] at hwait hm'
    have hlaunched := Pool.getElem?_launchProvisioning hm' g t spec
    obtain ⟨more, hmore⟩ := course_startAdapters (hwait.step (.follows hlaunched))
    have hlast := hmore.step .returns
    simp only [Pool.afterReady, hlaunched]
    simp only [List.append_assoc] at hlast
    exact ⟨_, hlast⟩
  · next hgoesOn =>
    have hsame : Stage.after stage (p.waitStep t id stage).1 = .ofReady stage _ :=
      Stage.after_eq_ofReady fun hdone => hgoesOn (p.waitStep t id stage).2 (Prod.ext hdone rfl)
    rw [hsame] at hwait
    exact ⟨_, hwait⟩

/-! ### What every step keeps -/

/-- The state of the manager. -/
def Situation.state? (s : Situation) (id : Nat) : Option BrokerState :=
  s.pool.brokerState? id

/-- A state that is entered when the broker accepts connections. -/
def needsReady : BrokerState → Bool
  | .ready => true
  | .provisioningTopology => true
  | .running => true
  | _ => false

/-- What the states of a manager promise. -/
structure Sound (id : Nat) (url : String) (spec : TopologySpec) (s : Situation)
    (events : List Event) : Prop where
  broker : ∃ m, s.pool.brokers[id]? = some m ∧ m.url = url ∧
    (needsReady m.state → .asks true ∈ events) ∧
    (m.state = .running → (s.pool.host.store url).Provides spec)
  stage : s.stage.isPast = true ↔ .asks true ∈ events
  /-- Whoever makes the resources makes those that were asked for, and knows where it stands. -/
  tasks : ∀ task ∈ s.pool.tasks, ∀ spec' stage, task.activity = .provisioning id spec' stage →
    spec' = spec ∧ .asks true ∈ events ∧ stage.Covers (s.pool.host.store url) spec

namespace Sound

lemma mem_concat {e' : Event} (h : e' ∈ events) : e' ∈ events ++ [e] :=
  List.mem_append_left _ h

/-- What needs an accepting broker happens after it was seen to accept connections. -/
lemma asked_of_needsBroker (h : Sound id url spec s events) (hstep : Step id g t spec s e s')
    (he : e.needsBroker = true) : .asks true ∈ events := by
  cases hstep with
  | @waits p m stage hm => cases stage <;> contradiction
  | follows _ | returns | elsewhere _ => contradiction
  | starts _ => exact h.stage.1 rfl
  | @turn p stage task htask =>
    unfold Event.ofTask at he
    split at he
    · next other spec' attempt delay hactivity =>
      split at he
      · next hother =>
        subst hother
        exact (h.tasks task htask _ _ hactivity).2.1
      · contradiction
    · contradiction

lemma mem_asked_concat (he : e ≠ .asks true) :
    .asks true ∈ events ++ [e] ↔ .asks true ∈ events := by
  simp [Ne.symm he]

lemma needsReady_of_running {b : BrokerState} (h : b = .running) : needsReady b = true := by
  rw [h]
  rfl

/-- A step that nobody sees the broker accept connections at, and that enters no state which
promises anything. -/
lemma carry (h : Sound id url spec s events) (he : e ≠ .asks true)
    (hstage : s'.stage.isPast = s.stage.isPast)
    (hgrows : ∀ name ∈ (s.pool.host.store url).streamNames,
      name ∈ (s'.pool.host.store url).streamNames)
    (hbroker : ∀ m, s.pool.brokers[id]? = some m → ∃ m', s'.pool.brokers[id]? = some m' ∧
      m'.url = m.url ∧ (m'.state = m.state ∨ needsReady m'.state = false))
    (htasks : ∀ task ∈ s'.pool.tasks, task.activity.work = .provisioning id →
      task ∈ s.pool.tasks) : Sound id url spec s' (events ++ [e]) := by
  obtain ⟨m, hm, hurl, hasked, hprovides⟩ := h.broker
  obtain ⟨m', hm', hurl', hstate⟩ := hbroker m hm
  refine ⟨⟨m', hm', hurl'.trans hurl, fun hneeds => ?_, fun hrunning => ?_⟩, ?_, ?_⟩
  · rcases hstate with hsame | hnone
    · exact mem_concat (hasked (hsame ▸ hneeds))
    · rw [hnone] at hneeds
      contradiction
  · rcases hstate with hsame | hnone
    · exact (hprovides (hsame ▸ hrunning)).grows hgrows
    · rw [needsReady_of_running hrunning] at hnone
      contradiction
  · rw [hstage, h.stage, mem_asked_concat he]
  · intro task htask spec' stage hactivity
    have hold := htasks task htask (by rw [hactivity]; rfl)
    obtain ⟨hspec, hmem, hcovers⟩ := h.tasks task hold spec' stage hactivity
    exact ⟨hspec, mem_concat hmem, hcovers.grows hgrows⟩

lemma waits {m : BrokerManager} {stage : BrokerManager.WaitStage}
    (h : Sound id url spec ⟨p, .waiting stage⟩ events) (hm : p.brokers[id]? = some m) :
    Sound id url spec ⟨(p.waitStep t id stage).2, .after stage (p.waitStep t id stage).1⟩
      (events ++ [.ofWait m p.host.uptime stage]) := by
  have hid : id < p.brokers.length := (List.getElem?_eq_some_iff.1 hm).1
  have hm' : ((p.brokers.set id (m.waitStep p.host t stage).2))[id]?
      = some (m.waitStep p.host t stage).2 := List.getElem?_set_self hid
  rw [Pool.waitStep_eq hm]
  by_cases hready : stage = .asking ∧ m.isReady p.host.uptime = true
  · -- the one step at which the broker is seen to accept connections
    obtain ⟨rfl, hready⟩ := hready
    obtain ⟨m₀, hm₀, hurl, -, -⟩ := h.broker
    obtain rfl := Option.some.inj (hm₀.symm.trans hm)
    have hasked : Event.asks true ∈ events ++ [Event.ofWait m₀ p.host.uptime .asking] := by
      simp [Event.ofWait, hready]
    have hdone : m₀.waitStep p.host t .asking = (.done (.ok ()), m₀.enter .ready) := by
      rw [BrokerManager.waitStep, if_pos hready]
    rw [hdone] at hm' ⊢
    refine ⟨⟨_, hm', hurl, fun _ => hasked, fun hrunning => by contradiction⟩,
      iff_of_true rfl hasked, fun task htask spec' stage' hactivity => ?_⟩
    obtain ⟨hspec, -, hcovers⟩ := h.tasks task htask spec' stage' hactivity
    exact ⟨hspec, hasked, hcovers⟩
  · refine h.carry ?_ ?_ (fun _ hname => hname) (fun m₀ hm₀ => ?_) fun _ htask _ => htask
    · cases stage with
      | entering | pausing wake => exact fun heq => by contradiction
      | asking =>
        intro heq
        exact hready ⟨rfl, by simpa [Event.ofWait] using heq⟩
    · cases stage with
      | entering => rfl
      | asking =>
        rw [BrokerManager.waitStep, if_neg fun hyes => hready ⟨rfl, hyes⟩]
        rfl
      | pausing wake =>
        simp only [BrokerManager.waitStep]
        split <;> rfl
    · obtain rfl := Option.some.inj (hm.symm.trans hm₀)
      refine ⟨_, hm', m.waitStep_url p.host t stage, ?_⟩
      cases stage with
      | entering => exact .inr rfl
      | asking =>
        rw [BrokerManager.waitStep, if_neg fun hyes => hready ⟨rfl, hyes⟩]
        exact .inl rfl
      | pausing wake =>
        simp only [BrokerManager.waitStep]
        split
        · exact .inr rfl
        · exact .inl rfl
        · exact .inl rfl

lemma follows {left : List (AdapterConfig × AdapterKind)}
    (h : Sound id url spec ⟨p, .following⟩ events) :
    Sound id url spec ⟨p.launchProvisioning g t id spec, .starting left⟩
      (events ++ [.goesOn]) := by
  obtain ⟨m, hm, hurl, -, -⟩ := h.broker
  have hasked : Event.asks true ∈ events ++ [Event.goesOn] := mem_concat (h.stage.1 rfl)
  refine ⟨⟨_, Pool.getElem?_launchProvisioning hm g t spec, hurl, fun _ => hasked,
    fun hrunning => by contradiction⟩, iff_of_true rfl hasked, ?_⟩
  intro task htask spec' stage hactivity
  simp only [Pool.launchProvisioning, hm] at htask ⊢
  rcases List.mem_append.1 htask with hold | hnew
  · obtain ⟨hspec, -, hcovers⟩ := h.tasks task hold spec' stage hactivity
    exact ⟨hspec, hasked, hcovers⟩
  · rw [List.mem_singleton.1 hnew] at hactivity
    obtain ⟨-, rfl, rfl⟩ := Activity.provisioning.inj hactivity
    exact ⟨rfl, hasked, trivial⟩

lemma starts {left left' : List (AdapterConfig × AdapterKind)} {config : AdapterConfig}
    {kind : AdapterKind} (h : Sound id url spec ⟨p, .starting left⟩ events)
    (hstarts : p.StartsAdapter p') :
    Sound id url spec ⟨p', .starting left'⟩ (events ++ [.startsAdapter config kind]) := by
  refine h.carry Event.noConfusion rfl (fun _ => (hstarts.affected fun _ => False).mem_streamNames)
    (fun m hm => ?_) fun task htask hwork => ?_
  · obtain ⟨adapterStarts, hm'⟩ := hstarts.broker id m hm
    exact ⟨_, hm', rfl, .inl rfl⟩
  · exact (hstarts.tasks task htask).resolve_right fun hnone => hnone id hwork

lemma elsewhere {stage : Stage} (h : Sound id url spec ⟨p, stage⟩ events)
    (helse : Elsewhere id p p') : Sound id url spec ⟨p', stage⟩ (events ++ [.goesOn]) := by
  refine h.carry Event.noConfusion rfl (helse.streams url) (fun m hm => ?_) helse.tasks
  obtain ⟨kind, hm'⟩ := helse.broker m hm
  exact ⟨_, hm', rfl, .inl rfl⟩

lemma turn {stage : Stage} {task : Task} (h : Sound id url spec ⟨p, stage⟩ events)
    (htask : task ∈ p.tasks) :
    Sound id url spec ⟨p.turn task, stage⟩ (events ++ [.ofTask id task]) := by
  have hturned := p.turned task
  have hgrows : ∀ name ∈ (p.host.store url).streamNames,
      name ∈ ((p.turn task).host.store url).streamNames := fun _ => hturned.mem_streamNames
  have hevent : Event.ofTask id task ≠ .asks true := by
    unfold Event.ofTask
    split
    · split <;> exact Event.noConfusion
    · exact Event.noConfusion
  obtain ⟨m, hm, hurl, hasked, hprovides⟩ := h.broker
  subst hurl
  refine ⟨?_, by rw [h.stage, mem_asked_concat hevent], ?_⟩
  · rcases hturned.shared with hsame | ⟨hhost, hbrokers, -⟩
    · rw [hsame]
      exact ⟨m, hm, rfl, fun hneeds => mem_concat (hasked hneeds), hprovides⟩
    · obtain ⟨m', hm', hurl', hstate⟩ := Pool.broker_stepActivity hm task.token task.activity
      refine ⟨m', by rw [hbrokers, hm'], hurl', fun hneeds => ?_, fun hrunning => ?_⟩
      · rcases hstate with hsame | hfailed | ⟨spec', stage', hactivity, -⟩
        · exact mem_concat (hasked (hsame ▸ hneeds))
        · rw [hfailed] at hneeds
          contradiction
        · exact mem_concat (h.tasks task htask spec' stage' hactivity).2.1
      · rcases hstate with hsame | hfailed | ⟨spec', stage', hactivity, hmakes⟩
        · exact (hprovides (hsame ▸ hrunning)).grows hgrows
        · rw [hfailed] at hrunning
          contradiction
        · -- the resources have just been made
          obtain ⟨rfl, -, hcovers⟩ := h.tasks task htask spec' stage' hactivity
          rw [hhost, hactivity, Pool.host_stepActivity_provisioning hm]
          exact BrokerManager.provides_of_makes hcovers hmakes
  · intro new hnew spec' stage' hactivity
    rcases hturned.mem_or_next hnew with hold | ⟨hnext, hhost⟩
    · obtain ⟨hspec, hmem, hcovers⟩ := h.tasks new hold spec' stage' hactivity
      exact ⟨hspec, mem_concat hmem, hcovers.grows hgrows⟩
    · rw [hactivity] at hnext
      obtain ⟨stage₀, hbefore, hstep⟩ := Pool.provisioning_of_next hm hnext
      obtain ⟨rfl, hmem, hcovers⟩ := h.tasks task htask spec' stage₀ hbefore
      refine ⟨rfl, mem_concat hmem, ?_⟩
      rw [hhost, hbefore, Pool.host_stepActivity_provisioning hm]
      exact BrokerManager.covers_provisionStep hcovers hstep

theorem step (h : Sound id url spec s events) (hstep : Step id g t spec s e s') :
    Sound id url spec s' (events ++ [e]) := by
  cases hstep with
  | waits hm => exact h.waits hm
  | follows _ => exact h.follows
  | starts _ => exact h.starts (Pool.startsAdapter_startAdapter ..)
  | returns =>
    exact h.carry Event.noConfusion rfl (fun _ hname => hname) (fun m hm => ⟨m, hm, rfl, .inl rfl⟩)
      fun _ htask _ => htask
  | turn htask => exact h.turn htask
  | elsewhere helse => exact h.elsewhere helse

theorem course (h : Sound id url spec s [])
    (hcourse : Course id g t spec s events s') : Sound id url spec s' events := by
  induction hcourse with
  | start => exact h
  | step _ last ih => exact ih.step last

/-- A broker that was just launched, and that nobody makes resources for. -/
lemma launched {m : BrokerManager} (hm : p.brokers[id]? = some m)
    (hnone : ∀ task ∈ p.tasks, task.activity.work ≠ .provisioning id) :
    Sound id m.url spec ⟨p.launchBroker g t id, .waiting .entering⟩ [] := by
  have hm' : (p.launchBroker g t id).brokers[id]? = some (m.enter .starting) := by
    simp [Pool.launchBroker, Pool.spawn, Pool.modifyBroker, hm]
  refine ⟨⟨_, hm', rfl, fun hneeds => by contradiction, fun hrunning => by contradiction⟩,
    iff_of_false Bool.noConfusion List.not_mem_nil, fun task htask spec' stage hactivity => ?_⟩
  rcases List.mem_append.1 htask with hold | hnew
  · exact absurd (by rw [hactivity]; rfl) (hnone task hold)
  · rw [List.mem_singleton.1 hnew] at hactivity
    contradiction

end Sound

/-- In any course, what needs an accepting broker happens after it was seen to accept
connections. -/
lemma asked_before {before after : List Event} (h : Sound id url spec s [])
    (hcourse : Course id g t spec s events s') (hevents : events = before ++ e :: after)
    (he : e.needsBroker = true) : .asks true ∈ before := by
  induction hcourse generalizing after with
  | start => simp at hevents
  | @step events last s₁ s₂ hbefore hlast ih =>
    rcases List.eq_nil_or_concat after with rfl | ⟨after', e', rfl⟩
    · obtain ⟨rfl, hsame⟩ := List.append_inj' hevents rfl
      obtain rfl := List.singleton_inj.1 hsame
      exact (h.course hbefore).asked_of_needsBroker hlast he
    · have hsplit : events ++ [last] = (before ++ e :: after') ++ [e'] := by simpa using hevents
      obtain ⟨rfl, -⟩ := List.append_inj' hsplit rfl
      exact ih rfl

/-- **A broker that is running is provisioned.**  However the run of the broker, the wait for it,
the making of its resources, its data adapters and others come between each other, and however often
the broker refuses connections: in a broker that is `running` all resources exist; a state that
needs an accepting broker, a connection for making the resources and the start of an adapter come
after the broker was seen to accept connections; the start of an adapter, whether or not it fails,
leaves the state alone; and the start of the broker succeeds exactly if the broker was seen to
accept connections, whatever became of the adapters. -/
theorem running_provisioned {m : BrokerManager} (hm : p.brokers[id]? = some m)
    (hnone : ∀ task ∈ p.tasks, task.activity.work ≠ .provisioning id)
    (hcourse : Course id g t spec ⟨p.launchBroker g t id, .waiting .entering⟩ events s) :
    (s.state? id = some .running → (s.pool.host.store m.url).Provides spec) ∧
    (∀ b, s.state? id = some b → needsReady b → .asks true ∈ events) ∧
    (∀ before e after, events = before ++ e :: after → e.needsBroker → .asks true ∈ before) ∧
    (∀ config kind s', Step id g t spec s (.startsAdapter config kind) s' →
      s'.state? id = s.state? id ∧ ∃ left, s'.stage = .starting left) ∧
    (∀ result, s.stage = .returned result → (result = .ok () ↔ .asks true ∈ events)) := by
  have hstart : Sound id m.url spec ⟨p.launchBroker g t id, .waiting .entering⟩ [] :=
    .launched hm hnone
  have hsound := hstart.course hcourse
  obtain ⟨m', hm', -, hasked, hprovides⟩ := hsound.broker
  have hstate : s.state? id = some m'.state := by
    rw [Situation.state?, Pool.brokerState?, hm', Option.map_some]
  refine ⟨fun hrunning => ?_, fun b hb hneeds => ?_, fun before e after hevents he => ?_,
    fun config kind s' hstep => ?_, fun result hreturned => ?_⟩
  · exact hprovides (Option.some.inj (hstate.symm.trans hrunning))
  · obtain rfl := Option.some.inj (hstate.symm.trans hb)
    exact hasked hneeds
  · exact asked_before hstart hcourse hevents he
  · generalize hevent : Event.startsAdapter config kind = event at hstep
    cases hstep with
    | starts _ => exact ⟨Pool.brokerState?_startAdapter .., _, rfl⟩
    | @waits p m stage hm => cases stage <;> contradiction
    | follows _ | returns | elsewhere _ => contradiction
    | turn _ =>
      unfold Event.ofTask at hevent
      split at hevent
      · split at hevent <;> contradiction
      · contradiction
  · rw [← hsound.stage, hreturned]
    cases result with
    | ok _ => exact iff_of_true rfl rfl
    | error e => exact iff_of_false (by simp) Bool.noConfusion

/-- A broker that accepts connections after a second, with one data adapter. -/
def slowBroker : BrokerManager where
  config := { identity := "n1", tls := .inDirectory "/etc", storageDirectory := "/var" }
  kind := .scripted (fun now => decide (1000 ≤ now)) .lasts
  implementations := [.registration]

/-- Its one resource. -/
def oneStream : TopologySpec :=
  ⟨[.stream { name := "SUBMIT", subjects := ["choria.submission.in.>"] }]⟩

/-- The pool in which it is launched. -/
def slowPool : Pool :=
  (({} : Pool).addBroker slowBroker).2

/-- The broker is seen not to accept connections, then to do so; it refuses the one of the data
adapter, somebody publishes, and its stream is made all the same. -/
theorem running_provisioned_slowBroker :
    ∃ events s, Course 0 0 0 oneStream ⟨slowPool.launchBroker 0 0 0, .waiting .entering⟩ events s ∧
      .asks false ∈ events ∧ s.stage = .returned (.ok ()) ∧ s.state? 0 = some .running ∧
      (s.pool.host.store localBrokerUrl).Provides oneStream := by
  have hstart : Course 0 0 0 oneStream ⟨slowPool.launchBroker 0 0 0, .waiting .entering⟩ []
      ⟨slowPool.launchBroker 0 0 0, .waiting .entering⟩ := .start
  have hwaits := hstart.step (.waits rfl)
  have hrefused := hwaits.step (.waits rfl)
  have hlater := hrefused.step (.elsewhere (.host 0 { uptime := 1000 } rfl))
  have hagain := hlater.step (.waits rfl)
  have hready := hagain.step (.waits rfl)
  have hfollows := hready.step (.follows rfl)
  have hcloses := hfollows.step (.elsewhere (.behaves 0 _ (.scripted (fun _ => false) .lasts)))
  have hadapter := hcloses.step (.starts (i := 0) rfl)
  have hopens := hadapter.step (.elsewhere (.behaves 0 _ (.scripted (fun _ => true) .lasts)))
  have hreturns := hopens.step .returns
  have hpublishes := hreturns.step
    (.elsewhere (.request 0 _ localBrokerUrl 5 (.publish "choria.submission.in.a" [1])))
  have hbegins := hpublishes.step (.turn (List.mem_of_getElem? (i := 1) rfl))
  have hconnects := hbegins.step (.turn (List.mem_of_getElem? (i := 1) rfl))
  have hlooks := hconnects.step (.turn (List.mem_of_getElem? (i := 1) rfl))
  have hcreates := hlooks.step (.turn (List.mem_of_getElem? (i := 1) rfl))
  have hdone := hcreates.step (.turn (List.mem_of_getElem? (i := 1) rfl))
  have hnone : ∀ task ∈ slowPool.tasks, task.activity.work ≠ .provisioning 0 := by
    simp [slowPool, Pool.addBroker]
  refine ⟨_, _, hdone, List.mem_of_getElem? (i := 1) rfl, rfl, rfl, ?_⟩
  exact (running_provisioned rfl hnone hdone).1 rfl

end Startup

end EdgeNode
