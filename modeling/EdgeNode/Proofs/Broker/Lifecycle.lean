import EdgeNode.Proofs.Pool.Changes
/-!
# The life of a broker

A manager's state is written by the run of its broker, by everybody who waits for the broker, and by
the making of its resources.  Each of them enters the next state whatever the present one is, so
they overwrite each other.

`Lifecycle.happen` is one event in such a life: one of the three goes on, or something else happens
to the host and to the broker.  `Lifecycle.Overwrites` lists the events that enter a state other
than `failed`.  Between two of them a manager that has failed stays so, and nobody is told that the
broker is ready.
-/

namespace EdgeNode

/-! ### What the parts of a manager do to its state -/

namespace BrokerManager

variable {m : BrokerManager} {h : Host} {t : StopToken}

lemma afterRun_state (hm : m.state = .failed) (result : Outcome Error Unit) :
    (m.afterRun result).state = .failed := by
  cases result with
  | ok _ => exact hm
  | error e => rfl
  | crash => exact hm

lemma runStep_state (hm : m.state = .failed) (stage : RunStage) :
    (m.runStep h t stage).2.2.state = .failed := by
  cases stage with
  | launching =>
    simp only [runStep]
    split
    · exact hm
    · split
      · exact hm
      · exact afterRun_state hm _
  | startingUp wake =>
    simp only [runStep]
    split <;> exact hm
  | serving =>
    simp only [runStep]
    split <;> exact hm
  | course start =>
    simp only [runStep]
    split
    · exact hm
    · split
      · exact afterRun_state hm _
      · exact hm

/-- Making the resources succeeds at this step. -/
def Makes (m : BrokerManager) (h : Host) (t : StopToken) (spec : TopologySpec)
    (stage : Provisioning) : Prop :=
  ∃ report, (stage.step (m.link h.uptime) spec m.retry h.jitter h.uptime (h.isCancelled t) h).1
    = .done (.ok report)

lemma provisionStep_of_makes {spec : TopologySpec} {stage : Provisioning}
    (hmakes : m.Makes h t spec stage) :
    (m.provisionStep h t spec stage).1 = .done (.ok ()) ∧
      (m.provisionStep h t spec stage).2.2.state = .running := by
  obtain ⟨report, hstep⟩ := hmakes
  unfold provisionStep
  split
  · next result host hdone =>
    rw [hdone] at hstep
    obtain rfl := Progress.done.inj hstep
    exact ⟨rfl, rfl⟩
  · next hnext =>
    rw [hnext] at hstep
    contradiction
  · next hwait =>
    rw [hwait] at hstep
    contradiction

lemma provisionStep_state {spec : TopologySpec} {stage : Provisioning}
    (hmakes : ¬ m.Makes h t spec stage) :
    (m.provisionStep h t spec stage).2.2.state = m.state := by
  unfold provisionStep
  split
  · next result host hdone =>
    cases result with
    | ok report => exact absurd ⟨report, congrArg Prod.fst hdone⟩ hmakes
    | error e => rfl
    | crash => rfl
  · rfl
  · rfl

end BrokerManager

namespace Pool

variable {p : Pool} {id : Nat}

/-- The state of a managed broker. -/
def brokerState? (p : Pool) (id : Nat) : Option BrokerState :=
  p.brokers[id]?.map BrokerManager.state

lemma isSome_brokerState? : (p.brokerState? id).isSome = true ↔ id < p.brokers.length := by
  rw [brokerState?, Option.isSome_map, isSome_getElem?]

lemma exists_broker {b : BrokerState} (h : p.brokerState? id = some b) :
    ∃ m, p.brokers[id]? = some m ∧ m.state = b :=
  Option.map_eq_some_iff.1 h

/-! ### What follows when a broker accepts connections -/

lemma brokerState?_modifyBroker {f : BrokerManager → BrokerManager}
    (hf : ∀ m, (f m).state = m.state) (other : Nat) :
    (p.modifyBroker other f).brokerState? id = p.brokerState? id := by
  rw [brokerState?, modifyBroker, List.getElem?_modify, brokerState?]
  by_cases hother : other = id
  · simp [hother, Function.comp_def, hf]
  · simp [hother]

lemma brokerState?_enter {b : BrokerState} (hid : id < p.brokers.length) :
    (p.modifyBroker id fun m => m.enter b).brokerState? id = some b := by
  simp only [brokerState?, modifyBroker, List.getElem?_modify]
  simp [BrokerManager.enter, hid]

lemma brokers_startRegistration (g : Group) (t : StopToken) (config : AdapterConfig)
    (busUrl storeUrl : String) (accepting : Bool) :
    (p.startRegistration g t config busUrl storeUrl accepting).2.brokers = p.brokers := by
  unfold startRegistration
  split
  · rfl
  · simp only [launchWorkers_eq, spawn]

lemma brokerState?_startAdapter (g : Group) (t : StopToken) (other : Nat) (config : AdapterConfig)
    (kind : AdapterKind) :
    (p.startAdapter g t other config kind).brokerState? id = p.brokerState? id := by
  cases kind with
  | recorder name fails =>
    refine brokerState?_modifyBroker (fun m => ?_) other
    rfl
  | registration =>
    simp only [startAdapter]
    split
    · rfl
    · rw [brokerState?, brokers_startRegistration, brokerState?]

lemma brokerState?_startAdapters (g : Group) (t : StopToken) (other : Nat)
    (adapters : List (AdapterConfig × AdapterKind)) (p : Pool) :
    (startAdapters g t other adapters p).brokerState? id = p.brokerState? id := by
  induction adapters generalizing p with
  | nil => rfl
  | cons adapter rest ih =>
    rw [startAdapters, ih]
    exact brokerState?_startAdapter ..

lemma brokerState?_afterReady (g : Group) (t : StopToken) (spec : TopologySpec)
    (hid : id < p.brokers.length) :
    (p.afterReady g t id spec).brokerState? id = some .provisioningTopology := by
  have hlaunched : (p.launchProvisioning g t id spec).brokerState? id
      = some .provisioningTopology := by
    rw [launchProvisioning, List.getElem?_eq_getElem hid]
    exact brokerState?_enter hid
  obtain ⟨m, hm, -⟩ := exists_broker hlaunched
  simp only [afterReady, hm]
  rw [brokerState?_startAdapters]
  exact hlaunched

/-! ### What a task does to the state -/

/-- The making of the resources of a broker succeeds at the next step of a task. -/
def Makes (p : Pool) (id : Nat) (task : Task) : Prop :=
  ∃ m spec stage, p.brokers[id]? = some m ∧ task.activity = .provisioning id spec stage ∧
    m.Makes p.host task.token spec stage

lemma brokerState?_stepBroker {σ : Type} {b b' : BrokerState} {other : Nat}
    {step : BrokerManager → Progress σ (Outcome Error Unit) × Host × BrokerManager}
    (hb : p.brokerState? id = some b) (hother : other ≠ id → b' = b)
    (hself : ∀ m, other = id → p.brokers[id]? = some m → (step m).2.2.state = b') :
    (p.stepBroker other step).2.brokerState? id = some b' := by
  obtain ⟨m, hm, -⟩ := exists_broker hb
  by_cases hid : other = id
  · subst hid
    have hlt : other < p.brokers.length := (List.getElem?_eq_some_iff.1 hm).1
    simp only [stepBroker, hm, brokerState?, List.getElem?_set_self hlt, Option.map_some]
    rw [hself m rfl hm]
  · rw [hother hid, ← hb]
    unfold stepBroker
    split
    · rfl
    · simp only [brokerState?, List.getElem?_set_ne hid]

lemma brokers_stepAdapter {σ : Type} {other : Nat}
    {step : RegistrationAdapter → Progress σ (Outcome Error Unit) × Host × RegistrationAdapter} :
    (p.stepAdapter other step).2.brokers = p.brokers := by
  unfold stepAdapter
  split <;> rfl

lemma brokerState?_stepActivity {t : StopToken} {a : Activity}
    (hfailed : p.brokerState? id = some .failed)
    (h : ∀ m spec stage, p.brokers[id]? = some m → a = .provisioning id spec stage →
      ¬ m.Makes p.host t spec stage) :
    (p.stepActivity t a).2.brokerState? id = some .failed := by
  have hstate : ∀ m, p.brokers[id]? = some m → m.state = .failed := by
    intro m hm
    simpa [brokerState?, hm] using hfailed
  cases a with
  | cancelling target wake =>
    simp only [stepActivity]
    split <;> exact hfailed
  | copying run => exact hfailed
  | supervised other job stage =>
    simp only [stepActivity]
    split <;> exact hfailed
  | broker other stage =>
    refine brokerState?_stepBroker hfailed (fun _ => rfl) fun m _ hm => ?_
    exact BrokerManager.runStep_state (hstate m hm) stage
  | provisioning other spec stage =>
    refine brokerState?_stepBroker hfailed (fun _ => rfl) ?_
    rintro m rfl hm
    exact (BrokerManager.provisionStep_state (h m spec stage hm rfl)).trans (hstate m hm)
  | receiving other =>
    exact (congrArg (fun l => Option.map _ l[id]?) brokers_stepAdapter).trans hfailed
  | working other =>
    exact (congrArg (fun l => Option.map _ l[id]?) brokers_stepAdapter).trans hfailed
  | serving other stage =>
    simp only [stepActivity]
    split <;> exact hfailed
  | refreshing interval o paths stage => exact hfailed

lemma brokerState?_turn_eq {b : BrokerState} {task : Task} (hb : p.brokerState? id = some b)
    (h : (p.stepActivity task.token task.activity).2.brokerState? id = some b) :
    (p.turn task).brokerState? id = some b := by
  unfold turn
  split
  · next hstep =>
    rw [hstep] at h
    exact h
  · next hstep =>
    rw [hstep] at h
    exact h
  · exact hb

lemma brokerState?_turn {task : Task} (hfailed : p.brokerState? id = some .failed)
    (h : ¬ p.Makes id task) : (p.turn task).brokerState? id = some .failed :=
  brokerState?_turn_eq hfailed (brokerState?_stepActivity hfailed
    fun m spec stage hm htask hmakes => h ⟨m, spec, stage, hm, htask, hmakes⟩)

lemma brokerState?_turn_of_makes {task : Task} (h : p.Makes id task) :
    (p.turn task).brokerState? id = some .running := by
  obtain ⟨m, spec, stage, hm, htask, hmakes⟩ := h
  obtain ⟨hdone, hrunning⟩ := BrokerManager.provisionStep_of_makes hmakes
  have hb : p.brokerState? id = some m.state := by rw [brokerState?, hm, Option.map_some]
  have hstate : (p.stepActivity task.token task.activity).2.brokerState? id = some .running := by
    rw [htask]
    refine brokerState?_stepBroker hb (fun hne => absurd rfl hne) fun m' _ hm' => ?_
    obtain rfl := Option.some.inj (hm.symm.trans hm')
    exact hrunning
  have hended : (p.stepActivity task.token task.activity).1 = .done (.ok ()) := by
    simp only [htask, stepActivity, stepBroker, hm, hdone, Progress.inside]
  unfold turn
  split
  · next hstep =>
    rw [hstep] at hended
    contradiction
  · next hstep =>
    rw [hstep] at hstate
    exact hstate
  · next hstep =>
    rw [hstep] at hended
    contradiction

end Pool

/-! ### Calls that wait for a broker -/

/-- Somebody who waits for a broker, under a token, and may then have its resources made. -/
structure ReadyCall where
  /-- The token that ends the wait. -/
  token : StopToken
  /-- The group and the resources of what follows, if something does. -/
  follows? : Option (Group × TopologySpec) := none

namespace ReadyCall

/-- Where such a call stands. -/
inductive Stage where
  /-- It waits. -/
  | waiting (stage : BrokerManager.WaitStage)
  /-- The broker accepts connections; what follows is still to be done. -/
  | following (g : Group) (spec : TopologySpec)
  /-- It has returned. -/
  | returned (result : Except Error Unit)

/-- The stage that a step of the wait leads to. -/
def Stage.after (c : ReadyCall) (stage : BrokerManager.WaitStage) :
    Progress BrokerManager.WaitStage (Except Error Unit) → Stage
  | .next stage => .waiting stage
  | .wait _ => .waiting stage
  | .done (.error e) => .returned (.error e)
  | .done (.ok ()) =>
    match c.follows? with
    | none => .returned (.ok ())
    | some (g, spec) => .following g spec

lemma Stage.done_of_returned {c : ReadyCall} {stage : BrokerManager.WaitStage}
    {progress : Progress BrokerManager.WaitStage (Except Error Unit)}
    (h : Stage.after c stage progress = .returned (.ok ())) : progress = .done (.ok ()) := by
  cases progress with
  | next stage => contradiction
  | wait wake => contradiction
  | done result =>
    cases result with
    | ok _ => rfl
    | error e => exact absurd (Stage.returned.inj h) (by simp)

/-- A step of a call for a broker. -/
def step (c : ReadyCall) (id : Nat) (p : Pool) : Stage → Stage × Pool
  | .waiting stage =>
    match p.waitStep c.token id stage with
    | (progress, p) => (Stage.after c stage progress, p)
  | .following g spec => (.returned (.ok ()), p.afterReady g c.token id spec)
  | .returned result => (.returned result, p)

variable {c : ReadyCall} {id : Nat} {p p' : Pool} {g : Group} {spec : TopologySpec}

/-- A step of the start of a launched broker is a step of such a call, or two of them: others may
come between the wait and what follows. -/
lemma step_of_readyStep {stage : BrokerManager.WaitStage}
    {progress : Progress BrokerManager.WaitStage (Except Error Unit)}
    (hc : c.follows? = some (g, spec))
    (h : p.readyStep g c.token id spec stage = (progress, p')) :
    c.step id p (.waiting stage) = (Stage.after c stage progress, p') ∨
    progress = .done (.ok ()) ∧ ∃ q, c.step id p (.waiting stage) = (.following g spec, q) ∧
      c.step id q (.following g spec) = (.returned (.ok ()), p') := by
  unfold Pool.readyStep at h
  split at h
  · next q hwait =>
    obtain ⟨rfl, rfl⟩ := Prod.mk.inj h
    refine .inr ⟨rfl, q, ?_, rfl⟩
    simp only [step, hwait, Stage.after, hc]
  · left
    rw [step, h]

lemma brokerState?_waitStep {m : BrokerManager} (hm : p.brokers[id]? = some m) (t : StopToken)
    (stage : BrokerManager.WaitStage) :
    (p.waitStep t id stage).2.brokerState? id = some (m.waitStep p.host t stage).2.state := by
  have hid : id < p.brokers.length := (List.getElem?_eq_some_iff.1 hm).1
  rw [Pool.waitStep_eq hm, Pool.brokerState?, List.getElem?_set_self hid, Option.map_some]

/-- A step of a call that enters a state, whatever the state is before. -/
inductive Enters (id : Nat) (p : Pool) : Stage → BrokerState → Prop
  /-- It begins to wait. -/
  | entering : Enters id p (.waiting .entering) .waitingReady
  /-- It asks, and the broker accepts connections. -/
  | asking {m : BrokerManager} (hm : p.brokers[id]? = some m)
    (hready : m.isReady p.host.uptime = true) : Enters id p (.waiting .asking) .ready
  /-- It has the resources made. -/
  | following {g : Group} {spec : TopologySpec} :
    Enters id p (.following g spec) .provisioningTopology

lemma Enters.brokerState? {stage : Stage} {b : BrokerState} (h : Enters id p stage b)
    (hid : id < p.brokers.length) : (c.step id p stage).2.brokerState? id = some b := by
  have hm : p.brokers[id]? = some p.brokers[id] := List.getElem?_eq_getElem hid
  cases h with
  | entering => exact brokerState?_waitStep hm c.token .entering
  | asking hm' hready =>
    refine (brokerState?_waitStep hm' c.token .asking).trans ?_
    rw [BrokerManager.waitStep, if_pos hready]
    rfl
  | following => exact Pool.brokerState?_afterReady _ _ _ hid

lemma brokerState?_step {stage : Stage} (hfailed : p.brokerState? id = some .failed)
    (h : ∀ b, ¬ Enters id p stage b) : (c.step id p stage).2.brokerState? id = some .failed := by
  obtain ⟨m, hm, hstate⟩ := Pool.exists_broker hfailed
  cases stage with
  | waiting stage =>
    refine (brokerState?_waitStep hm c.token stage).trans ?_
    cases stage with
    | entering => exact absurd .entering (h .waitingReady)
    | asking =>
      have hready : ¬ m.isReady p.host.uptime = true := fun hready => h .ready (.asking hm hready)
      rw [BrokerManager.waitStep, if_neg hready, hstate]
    | pausing wake =>
      simp only [BrokerManager.waitStep]
      split
      · rfl
      · rw [hstate]
      · rw [hstate]
  | following g spec => exact absurd .following (h .provisioningTopology)
  | returned result => exact hfailed

lemma managed_step (hid : id < p.brokers.length) (stage : Stage) :
    id < (c.step id p stage).2.brokers.length := by
  have hm : p.brokers[id]? = some p.brokers[id] := List.getElem?_eq_getElem hid
  cases stage with
  | waiting stage =>
    rw [← Pool.isSome_brokerState?]
    exact congrArg Option.isSome (brokerState?_waitStep hm c.token stage)
  | following g spec =>
    rw [← Pool.isSome_brokerState?]
    exact congrArg Option.isSome (Pool.brokerState?_afterReady g c.token spec hid)
  | returned result => exact hid

lemma enters_of_returned {stage : Stage} (hid : id < p.brokers.length)
    (h : (c.step id p stage).1 = .returned (.ok ())) :
    stage = .returned (.ok ()) ∨ ∃ b, Enters id p stage b := by
  have hm : p.brokers[id]? = some p.brokers[id] := List.getElem?_eq_getElem hid
  cases stage with
  | waiting stage =>
    right
    rw [step, Pool.waitStep_eq hm] at h
    obtain ⟨rfl, hready⟩ := BrokerManager.waitStep_ok (Stage.done_of_returned h)
    exact ⟨.ready, .asking hm hready⟩
  | following g spec => exact .inr ⟨.provisioningTopology, .following⟩
  | returned result => exact .inl h

end ReadyCall

/-! ### The life of a broker -/

/-- The pool that holds a broker, and the calls that wait for the broker. -/
structure Lifecycle where
  /-- The pool. -/
  pool : Pool
  /-- The calls, in the order in which they began, each with where it stands. -/
  calls : List (ReadyCall × ReadyCall.Stage) := []

namespace Lifecycle

/-- An event in the life of a broker. -/
inductive Event where
  /-- A call begins. -/
  | begins (c : ReadyCall)
  /-- A call goes on. -/
  | goesOn (call : Nat)
  /-- A task of the pool goes on. -/
  | works (task : Nat)
  /-- The host is another, and from now on the broker behaves differently. -/
  | changes (host : Host) (kind : BrokerKind)

/-- The life of a broker after an event. -/
def happen (id : Nat) (s : Lifecycle) : Event → Lifecycle
  | .begins c => { s with calls := s.calls ++ [(c, .waiting .entering)] }
  | .goesOn i =>
    match s.calls[i]? with
    | none => s
    | some (c, stage) =>
      match c.step id s.pool stage with
      | (stage, pool) => { pool, calls := s.calls.set i (c, stage) }
  | .works n =>
    match s.pool.tasks[n]? with
    | none => s
    | some task => { s with pool := s.pool.turn task }
  | .changes host kind =>
    { s with pool := { s.pool with host }.modifyBroker id fun m => { m with kind } }

/-- The life of a broker after events. -/
def play (id : Nat) (s : Lifecycle) (events : List Event) : Lifecycle :=
  events.foldl (happen id) s

/-- The state of the manager. -/
def state? (s : Lifecycle) (id : Nat) : Option BrokerState :=
  s.pool.brokerState? id

/-- A call has returned that the broker is ready. -/
def ReturnedOk (s : Lifecycle) (i : Nat) : Prop :=
  ∃ c, s.calls[i]? = some (c, .returned (.ok ()))

/-- Nobody waits for the broker, and nobody makes its resources. -/
structure Settled (s : Lifecycle) (id : Nat) : Prop where
  /-- Every call has returned. -/
  calls : ∀ c stage, (c, stage) ∈ s.calls → ∃ result, stage = .returned result
  /-- No task makes the resources. -/
  tasks : ∀ task ∈ s.pool.tasks, task.activity.work ≠ .provisioning id

/-- An event enters a state, whatever the state is before. -/
inductive Overwrites (id : Nat) (s : Lifecycle) : Event → BrokerState → Prop
  /-- A call does. -/
  | goesOn {i : Nat} {c : ReadyCall} {stage : ReadyCall.Stage} {b : BrokerState}
    (hcall : s.calls[i]? = some (c, stage)) (h : ReadyCall.Enters id s.pool stage b) :
    Overwrites id s (.goesOn i) b
  /-- The resources are made. -/
  | makes {n : Nat} {task : Task} (htask : s.pool.tasks[n]? = some task)
    (hmakes : s.pool.Makes id task) : Overwrites id s (.works n) .running

variable {id : Nat} {s : Lifecycle} {e : Event} {b : BrokerState}

/-- What an event comes to. -/
inductive Happening (id : Nat) (s : Lifecycle) : Event → Lifecycle → Prop
  | noCall {i : Nat} (hcall : s.calls[i]? = none) : Happening id s (.goesOn i) s
  | noTask {n : Nat} (htask : s.pool.tasks[n]? = none) : Happening id s (.works n) s
  | begins (c : ReadyCall) :
    Happening id s (.begins c) { s with calls := s.calls ++ [(c, .waiting .entering)] }
  | goesOn {i : Nat} {c : ReadyCall} {stage : ReadyCall.Stage}
    (hcall : s.calls[i]? = some (c, stage)) :
    Happening id s (.goesOn i)
      ⟨(c.step id s.pool stage).2, s.calls.set i (c, (c.step id s.pool stage).1)⟩
  | works {n : Nat} {task : Task} (htask : s.pool.tasks[n]? = some task) :
    Happening id s (.works n) { s with pool := s.pool.turn task }
  | changes (host : Host) (kind : BrokerKind) :
    Happening id s (.changes host kind)
      { s with pool := { s.pool with host }.modifyBroker id fun m => { m with kind } }

lemma happening (id : Nat) (s : Lifecycle) (e : Event) : Happening id s e (s.happen id e) := by
  cases e with
  | begins c => exact .begins c
  | goesOn i =>
    rcases hcall : s.calls[i]? with _ | ⟨c, stage⟩
    · simpa only [happen, hcall] using Happening.noCall hcall
    · simpa only [happen, hcall] using Happening.goesOn hcall
  | works n =>
    rcases htask : s.pool.tasks[n]? with _ | task
    · simpa only [happen, htask] using Happening.noTask htask
    · simpa only [happen, htask] using Happening.works htask
  | changes host kind => exact .changes host kind

lemma play_take_succ {events : List Event} {n : Nat} (he : events[n]? = some e) :
    s.play id (events.take (n + 1)) = (s.play id (events.take n)).happen id e := by
  rw [List.take_add_one, he, play, List.foldl_append]
  rfl

/-- What holds at first and is kept by every event holds after any number of events. -/
lemma play_take_induction {events : List Event} (P : Lifecycle → Prop) (hstart : P s)
    (hstep : ∀ n e, events[n]? = some e → P (s.play id (events.take n)) →
      P ((s.play id (events.take n)).happen id e)) (n : Nat) :
    P (s.play id (events.take n)) := by
  induction n with
  | zero => exact hstart
  | succ n ih =>
    rcases he : events[n]? with _ | e
    · rw [List.take_add_one, he]
      simpa using ih
    · rw [play_take_succ he]
      exact hstep n e he ih

lemma Overwrites.ne_failed (h : Overwrites id s e b) : b ≠ .failed := by
  rcases h with ⟨-, h⟩ | _
  · cases h <;> decide
  · decide

/-- What overwrites the state does so at every state. -/
lemma Overwrites.state? (h : Overwrites id s e b) (hid : id < s.pool.brokers.length) :
    (s.happen id e).state? id = some b := by
  cases h with
  | goesOn hcall h =>
    simp only [happen, hcall]
    exact h.brokerState? hid
  | makes htask hmakes =>
    simp only [happen, htask]
    exact Pool.brokerState?_turn_of_makes hmakes

section

variable {s' : Lifecycle} (h : Happening id s e s')

include h

/-- What does not overwrite `failed` leaves it. -/
lemma Happening.failed (hfailed : s.state? id = some .failed) (hnone : ∀ b, ¬ Overwrites id s e b) :
    s'.state? id = some .failed := by
  cases h with
  | noCall _ | noTask _ | begins _ => exact hfailed
  | goesOn hcall =>
    exact ReadyCall.brokerState?_step hfailed fun b henters => hnone b (.goesOn hcall henters)
  | works htask =>
    exact Pool.brokerState?_turn hfailed fun hmakes => hnone .running (.makes htask hmakes)
  | changes host kind =>
    refine Eq.trans (Pool.brokerState?_modifyBroker (fun m => ?_) id) hfailed
    rfl

/-- The broker stays under management. -/
lemma Happening.managed (hid : id < s.pool.brokers.length) : id < s'.pool.brokers.length := by
  cases h with
  | noCall _ | noTask _ | begins _ => exact hid
  | goesOn _ => exact ReadyCall.managed_step hid _
  | works _ => exact Nat.lt_of_lt_of_eq hid (Pool.length_brokers_turn s.pool _).symm
  | changes host kind => exact Nat.lt_of_lt_of_eq hid (List.length_modify ..).symm

lemma Happening.returnedOk (hid : id < s.pool.brokers.length) {i : Nat} (hafter : s'.ReturnedOk i) :
    s.ReturnedOk i ∨ e = .goesOn i ∧ ∃ b, Overwrites id s e b := by
  obtain ⟨c, hafter⟩ := hafter
  cases h with
  | noCall _ | noTask _ | works _ | changes _ _ => exact .inl ⟨c, hafter⟩
  | begins c' =>
    left
    by_cases hi : i < s.calls.length
    · exact ⟨c, (List.getElem?_append_left hi).symm.trans hafter⟩
    · -- the new call has not returned
      have hnew := (List.getElem?_append_right (by omega)).symm.trans hafter
      obtain ⟨⟩ := List.mem_singleton.1 (List.mem_of_getElem? hnew)
  | @goesOn j c' stage hcall =>
    by_cases hij : j = i
    · subst hij
      have hlt : j < s.calls.length := (List.getElem?_eq_some_iff.1 hcall).1
      obtain ⟨rfl, hreturned⟩ := Prod.mk.inj (Option.some.inj
        ((List.getElem?_set_self hlt).symm.trans hafter))
      rcases ReadyCall.enters_of_returned hid hreturned with rfl | ⟨b, henters⟩
      · exact .inl ⟨c', hcall⟩
      · exact .inr ⟨rfl, b, .goesOn hcall henters⟩
    · exact .inl ⟨c, (List.getElem?_set_ne hij).symm.trans hafter⟩

/-- Only a new call changes that nobody waits and nobody makes the resources. -/
lemma Happening.settled (hs : s.Settled id) (he : ∀ c, e ≠ .begins c) : s'.Settled id := by
  cases h with
  | noCall _ | noTask _ => exact hs
  | begins c => exact absurd rfl (he c)
  | goesOn hcall =>
    obtain ⟨result, rfl⟩ := hs.calls _ _ (List.mem_of_getElem? hcall)
    refine ⟨fun c' stage hmem => ?_, hs.tasks⟩
    rcases List.mem_or_eq_of_mem_set hmem with hold | hnew
    · exact hs.calls c' stage hold
    · exact ⟨result, congrArg Prod.snd hnew⟩
  | works htask =>
    refine ⟨hs.calls, fun new hnew => ?_⟩
    obtain ⟨old, hold, -, hwork⟩ := Pool.mem_tasks_turn (List.mem_of_getElem? htask) hnew
    exact hwork ▸ hs.tasks old hold
  | changes host kind => exact ⟨hs.calls, hs.tasks⟩

end

lemma Settled.not_overwrites (h : s.Settled id) : ¬ Overwrites id s e b := by
  rintro (⟨hcall, henters⟩ | ⟨htask, m, spec, stage, -, hactivity, -⟩)
  · obtain ⟨result, rfl⟩ := h.calls _ _ (List.mem_of_getElem? hcall)
    cases henters
  · refine h.tasks _ (List.mem_of_getElem? htask) ?_
    rw [hactivity, Activity.work]

/-- **A broker that failed stays so until it is overwritten.**  Every event of the three kinds that
overwrite a state does so after a failure, too.  Exactly as long as there is none, the state stays
`failed`; and a call that returns afterwards that the broker is ready has overwritten it.  When
nobody waits and nobody makes the resources, nothing but a new call can do so. -/
theorem failed_until_overwritten (hfailed : s.state? id = some .failed) (events : List Event) :
    ((∀ n, (s.play id (events.take n)).state? id = some .failed) ↔
      ∀ n e b, events[n]? = some e → ¬ Overwrites id (s.play id (events.take n)) e b) ∧
    (∀ n e b, events[n]? = some e → Overwrites id (s.play id (events.take n)) e b →
      (s.play id (events.take (n + 1))).state? id = some b) ∧
    (∀ i, (s.play id events).ReturnedOk i → s.ReturnedOk i ∨
      ∃ n b, events[n]? = some (.goesOn i) ∧
        Overwrites id (s.play id (events.take n)) (.goesOn i) b) ∧
    (s.Settled id → (∀ c, .begins c ∉ events) →
      ∀ n, (s.play id (events.take n)).state? id = some .failed) := by
  have hmanaged : ∀ n, id < (s.play id (events.take n)).pool.brokers.length := by
    refine play_take_induction (fun s' => id < s'.pool.brokers.length) ?_
      fun n e _ => (happening id _ e).managed
    rw [← Pool.isSome_brokerState?]
    exact congrArg Option.isSome hfailed
  have henters : ∀ n e b, events[n]? = some e → Overwrites id (s.play id (events.take n)) e b →
      (s.play id (events.take (n + 1))).state? id = some b := by
    intro n e b he h
    rw [play_take_succ he]
    exact h.state? (hmanaged n)
  have hlasts : (∀ n e b, events[n]? = some e → ¬ Overwrites id (s.play id (events.take n)) e b) →
      ∀ n, (s.play id (events.take n)).state? id = some .failed := fun h =>
    play_take_induction (fun s' => s'.state? id = some .failed) hfailed
      fun n e he ih => (happening id _ e).failed ih fun b => h n e b he
  refine ⟨⟨?_, hlasts⟩, henters, ?_, ?_⟩
  · intro hall n e b he h
    exact h.ne_failed (Option.some.inj ((henters n e b he h).symm.trans (hall (n + 1))))
  · intro i hreturned
    rw [← List.take_length (l := events)] at hreturned
    refine play_take_induction (fun s' => s'.ReturnedOk i → s.ReturnedOk i ∨
      ∃ n b, events[n]? = some (.goesOn i) ∧
        Overwrites id (s.play id (events.take n)) (.goesOn i) b) .inl
      (fun n e he ih hafter => ?_) events.length hreturned
    rcases (happening id _ e).returnedOk (hmanaged n) hafter with hbefore | ⟨rfl, b, h⟩
    · exact ih hbefore
    · exact .inr ⟨n, b, he, h⟩
  · intro hsettled hnone
    have hstill : ∀ n, (s.play id (events.take n)).Settled id := by
      refine play_take_induction (fun s' => s'.Settled id) hsettled
        fun n e he ih => (happening id _ e).settled ih fun c hc => hnone c ?_
      rw [← hc]
      exact List.mem_of_getElem? he
    exact hlasts fun n e b _ => (hstill n).not_overwrites

/-- A broker that takes 300 milliseconds to start, and was just launched. -/
def launched : Lifecycle where
  pool :=
    (({} : Pool).addBroker
      { config :=
          { identity := "n1", tls := .inDirectory "/etc", storageDirectory := "/var" }
        kind := .memory (.ofMillis 300)
        poll := .ofMillis 1000 }).2.launchBroker 0 0 0

/-- Somebody waits for it, and is told to stop before asking a second time. -/
def stopped : Lifecycle :=
  launched.play 0
    [.works 0, .begins { token := 0 }, .goesOn 0, .goesOn 0,
     .changes { uptime := 300 } (.memory (.ofMillis 300)), .works 0,
     .changes { uptime := 500, cancelled := [0] } (.memory (.ofMillis 300)), .goesOn 0]

/-- Then somebody else asks. -/
def askedAgain : List Event :=
  [.begins { token := 0 }, .goesOn 1, .goesOn 1]

/-- The broker had failed, but the second call finds it ready. -/
theorem failed_until_overwritten_askedAgain :
    stopped.state? 0 = some .failed ∧ (stopped.play 0 askedAgain).state? 0 = some .ready ∧
    (stopped.play 0 askedAgain).ReturnedOk 1 ∧
    ∃ n b, askedAgain[n]? = some (.goesOn 1) ∧
      Overwrites 0 (stopped.play 0 (askedAgain.take n)) (.goesOn 1) b := by
  have hfailed : stopped.state? 0 = some .failed := by decide +kernel
  have hreturned : (stopped.play 0 askedAgain).ReturnedOk 1 := ⟨{ token := 0 }, rfl⟩
  refine ⟨hfailed, by decide +kernel, hreturned, ?_⟩
  rcases (failed_until_overwritten hfailed askedAgain).2.2.1 1 hreturned with ⟨c, hbefore⟩ | hlater
  · have hnone : stopped.calls[1]? = none := rfl
    rw [hnone] at hbefore
    contradiction
  · exact hlater

end Lifecycle

end EdgeNode
