import EdgeNode.Launch
import EdgeNode.Proofs.Pool.Effects
/-!
# What launching changes

Whoever launches something changes the pool by a few changes: an effect on the host, a task or
something to manage that is new, and news for a broker or an agent server that is there.  Every
launcher is a sequence of them (`Pool.Launched`), and `Addition` says what may be new.  What all
changes keep, every launcher keeps.
-/

namespace EdgeNode

/-- An agent server as it was built; who waits for it to be ready may have changed. -/
structure AgentServer.SameBuild (a a' : AgentServer) : Prop where
  config : a'.config = a.config
  inProcess : a'.inProcess = a.inProcess
  course : a'.course = a.course

namespace AgentServer.SameBuild

variable {a a' a'' : AgentServer}

lemma refl (a : AgentServer) : a.SameBuild a :=
  ⟨rfl, rfl, rfl⟩

lemma trans (h : a.SameBuild a') (h' : a'.SameBuild a'') : a.SameBuild a'' :=
  ⟨h'.config.trans h.config, h'.inProcess.trans h.inProcess, h'.course.trans h.course⟩

lemma register (h : Host) (a : AgentServer) (c : Callback) : a.SameBuild (a.register h c).1 := by
  unfold AgentServer.register
  split <;> exact ⟨rfl, rfl, rfl⟩

end AgentServer.SameBuild

lemma AgentServer.config_build {f : Framework} {h : Host} {config : ServerConfig}
    {inProcess : Bool} {a : AgentServer} (ha : build f h config inProcess = .ok a) :
    a.config = config := by
  unfold build at ha
  split at ha
  · obtain rfl := Except.ok.inj ha
    rfl
  · split at ha
    · contradiction
    · obtain rfl := Except.ok.inj ha
      rfl

namespace Pool

/-- What can be new in a pool. -/
inductive Addition where
  /-- A task. -/
  | task (a : Activity)
  /-- A broker under management. -/
  | broker
  /-- A supervisor of replication. -/
  | supervisor
  /-- A data adapter. -/
  | adapter
  /-- An agent server. -/
  | agent (a : AgentServer)

/-- A change that a launcher makes; `adds` says what may be new. -/
inductive Change (adds : Addition → Prop) (p : Pool) : Pool → Prop
  /-- Work on the host that writes no file. -/
  | works {host : Host} (h : Host.Effect (fun _ => False) p.host host) :
    Change adds p { p with host }
  /-- A new task. -/
  | spawns {a : Activity} (h : adds (.task a)) (g : Option Group) (t : StopToken) :
    Change adds p (p.spawn g t a).2
  /-- A new broker. -/
  | manages (h : adds .broker) (m : BrokerManager) : Change adds p (p.addBroker m).2
  /-- News of a broker that is there. -/
  | modifies (id : Nat) (f : BrokerManager → BrokerManager) : Change adds p (p.modifyBroker id f)
  /-- A new supervisor. -/
  | supervises (h : adds .supervisor) (s : Supervisor) :
    Change adds p { p with supervisors := p.supervisors ++ [s] }
  /-- A new data adapter. -/
  | adapts (h : adds .adapter) (a : RegistrationAdapter) :
    Change adds p { p with adapters := p.adapters ++ [a] }
  /-- A new agent server. -/
  | serves {a : AgentServer} (h : adds (.agent a)) : Change adds p (p.addAgent a).2
  /-- News of an agent server that is there. -/
  | registers {id : Nat} {a a' : AgentServer} (ha : p.agents[id]? = some a)
    (hsame : a.SameBuild a') : Change adds p { p with agents := p.agents.set id a' }
  /-- The number of a callback is given out. -/
  | numbers : Change adds p p.newCallback.2

/-- Changes, one after another. -/
abbrev Launched (adds : Addition → Prop) : Pool → Pool → Prop :=
  Relation.ReflTransGen (Change adds)

/-- A data adapter may be new, with its tasks. -/
structure Addition.Adapting (adds : Addition → Prop) : Prop where
  adapter : adds .adapter
  receiving : ∀ id, adds (.task (.receiving id))
  working : ∀ id, adds (.task (.working id))

/-- What follows when a broker accepts connections may be new. -/
structure Addition.Following (adds : Addition → Prop) : Prop extends Adapting adds where
  provisioning : ∀ id spec stage, adds (.task (.provisioning id spec stage))

/-- The tasks of the workers of a data adapter. -/
def workerTasks (first : TaskId) (g : Group) (t : StopToken) (adapter n : Nat) : List Task :=
  (List.range' first n).map fun id =>
    { id, group := some g, token := t, activity := .working adapter }

lemma launchWorkers_eq (g : Group) (t : StopToken) (adapter n : Nat) (p : Pool) :
    launchWorkers g t adapter n p =
      { p with
        tasks := p.tasks ++ workerTasks p.nextTask g t adapter n
        nextTask := p.nextTask + n } := by
  induction n generalizing p with
  | zero => simp [launchWorkers, workerTasks]
  | succ n ih =>
    rw [launchWorkers, ih]
    simp [spawn, workerTasks, List.range'_succ, Nat.add_assoc, Nat.add_comm 1]

namespace Launched

variable {adds : Addition → Prop} {p p' : Pool}

lemma mono {more : Addition → Prop} (hmore : ∀ x, adds x → more x) (h : Launched adds p p') :
    Launched more p p' := by
  refine Relation.ReflTransGen.mono ?_ _ _ h
  intro _ _ hchange
  cases hchange with
  | works heffect => exact .works heffect
  | spawns ha g t => exact .spawns (hmore _ ha) g t
  | manages hbroker m => exact .manages (hmore _ hbroker) m
  | modifies id f => exact .modifies id f
  | supervises hsupervisor s => exact .supervises (hmore _ hsupervisor) s
  | adapts hadapter a => exact .adapts (hmore _ hadapter) a
  | serves hagent => exact .serves (hmore _ hagent)
  | registers ha hsame => exact .registers ha hsame
  | numbers => exact .numbers

/-- Launching is work on the host that writes no file. -/
lemma affected {writes : String → Prop} (h : Launched adds p p') :
    Host.Affected writes p.host p'.host := by
  induction h with
  | refl => exact .refl
  | tail _ hchange ih =>
    cases hchange with
    | works heffect => exact ih.trans (Host.Affected.mono (fun _ => False.elim) (.single heffect))
    | spawns | manages | modifies | supervises | adapts | serves | registers | numbers => exact ih

/-- A task is as it was, or it is new. -/
lemma mem_tasks {task : Task} (h : Launched adds p p') (htask : task ∈ p'.tasks) :
    task ∈ p.tasks ∨ adds (.task task.activity) := by
  induction h with
  | refl => exact .inl htask
  | tail _ hchange ih =>
    cases hchange with
    | spawns ha g t =>
      rcases List.mem_append.1 htask with hold | hnew
      · exact ih hold
      · rw [List.mem_singleton.1 hnew]
        exact .inr ha
    | works | manages | modifies | supervises | adapts | serves | registers | numbers =>
      exact ih htask

/-- An agent server is as it was built, and it was there before or is new. -/
lemma exists_agent {a : AgentServer} (h : Launched adds p p') (ha : a ∈ p'.agents) :
    ∃ built : AgentServer, built.SameBuild a ∧ (built ∈ p.agents ∨ adds (.agent built)) := by
  induction h generalizing a with
  | refl => exact ⟨a, .refl a, .inl ha⟩
  | tail _ hchange ih =>
    cases hchange with
    | serves hadds =>
      rcases List.mem_append.1 ha with hold | hnew
      · exact ih hold
      · obtain rfl := List.mem_singleton.1 hnew
        exact ⟨a, .refl a, .inr hadds⟩
    | registers hold hsame =>
      rcases List.mem_or_eq_of_mem_set ha with hsome | rfl
      · exact ih hsome
      · obtain ⟨built, hbuilt, hfrom⟩ := ih (List.mem_of_getElem? hold)
        exact ⟨built, hbuilt.trans hsame, hfrom⟩
    | works | spawns | manages | modifies | supervises | adapts | numbers => exact ih ha

lemma launchWorkers (h : Addition.Adapting adds) (g : Group) (t : StopToken) (adapter n : Nat)
    (p : Pool) : Launched adds p (Pool.launchWorkers g t adapter n p) := by
  induction n generalizing p with
  | zero => exact .refl
  | succ n ih => exact .head (.spawns (h.working adapter) _ _) (ih _)

lemma startRegistration (h : Addition.Adapting adds) (p : Pool) (g : Group) (t : StopToken)
    (config : AdapterConfig) (busUrl storeUrl : String) (accepting : Bool) :
    Launched adds p (p.startRegistration g t config busUrl storeUrl accepting).2 := by
  unfold Pool.startRegistration
  split
  · exact .refl
  · have hsubscribed : Change adds p
        { p with host := (RegistrationAdapter.subscribe p.host config busUrl storeUrl).2 } :=
      .works (.signals busUrl _)
    generalize RegistrationAdapter.subscribe p.host config busUrl storeUrl = subscription
      at hsubscribed ⊢
    obtain ⟨adapter, host⟩ := subscription
    have hadapted : Change adds { p with host }
        { p with host, adapters := p.adapters ++ [adapter] } := .adapts h.adapter adapter
    exact .head hsubscribed (.head hadapted (.head (.spawns (h.receiving _) _ _)
      (launchWorkers h ..)))

lemma startAdapter (h : Addition.Adapting adds) (p : Pool) (g : Group) (t : StopToken) (id : Nat)
    (config : AdapterConfig) (kind : AdapterKind) :
    Launched adds p (p.startAdapter g t id config kind) := by
  cases kind with
  | recorder name fails => exact .single (.modifies ..)
  | registration =>
    simp only [Pool.startAdapter]
    split
    · exact .refl
    · exact startRegistration h ..

lemma startAdapters (h : Addition.Following adds) (g : Group) (t : StopToken) (id : Nat)
    (adapters : List (AdapterConfig × AdapterKind)) (p : Pool) :
    Launched adds p (Pool.startAdapters g t id adapters p) := by
  induction adapters generalizing p with
  | nil => exact .refl
  | cons adapter rest ih => exact (startAdapter h.toAdapting ..).trans (ih _)

lemma launchProvisioning (h : Addition.Following adds) (p : Pool) (g : Group) (t : StopToken)
    (id : Nat) (spec : TopologySpec) : Launched adds p (p.launchProvisioning g t id spec) := by
  unfold Pool.launchProvisioning
  split
  · exact .refl
  · exact .head (.modifies ..) (.single (.spawns (h.provisioning ..) _ _))

lemma afterReady (h : Addition.Following adds) (p : Pool) (g : Group) (t : StopToken) (id : Nat)
    (spec : TopologySpec) : Launched adds p (p.afterReady g t id spec) := by
  simp only [Pool.afterReady]
  split
  · exact launchProvisioning h ..
  · exact (launchProvisioning h ..).trans (startAdapters h ..)

lemma waitStep (p : Pool) (t : StopToken) (id : Nat) (stage : BrokerManager.WaitStage) :
    Launched adds p (p.waitStep t id stage).2 := by
  unfold Pool.waitStep
  split
  · exact .refl
  · next m _ =>
    have hmodified : Change adds p (p.modifyBroker id fun _ => (m.waitStep p.host t stage).2) :=
      .modifies ..
    rw [modifyBroker, ← List.set_eq_modify] at hmodified
    exact .single hmodified

lemma readyStep (h : Addition.Following adds) (p : Pool) (g : Group) (t : StopToken) (id : Nat)
    (spec : TopologySpec) (stage : BrokerManager.WaitStage) :
    Launched adds p (p.readyStep g t id spec stage).2 := by
  have hwait : Launched adds p (p.waitStep t id stage).2 := waitStep ..
  unfold Pool.readyStep
  split
  · next q hq =>
    rw [hq] at hwait
    exact hwait.trans (afterReady h ..)
  · exact hwait

lemma launchBroker (hbroker : adds .broker)
    (htask : ∀ id stage, adds (.task (.broker id stage))) (p : Pool) (m : BrokerManager) (g : Group)
    (t : StopToken) (id : Nat) : Launched adds p ((p.addBroker m).2.launchBroker g t id) :=
  .head (.manages hbroker m) (.head (.modifies ..) (.single (.spawns (htask ..) _ _)))

lemma launchJobs (htask : ∀ id job stage, adds (.task (.supervised id job stage))) (g : Group)
    (t : StopToken) (e : Engine) (topology : ReplicationTopology) (supervisor : Nat)
    (jobs : List ReplicationJob) (p : Pool) :
    Launched adds p (Pool.launchJobs g t e topology supervisor jobs p) := by
  induction jobs generalizing p with
  | nil => exact .refl
  | cons j rest ih => exact .head (.spawns (htask ..) _ _) (ih _)

lemma startReplication (hsupervisor : adds .supervisor)
    (htask : ∀ id job stage, adds (.task (.supervised id job stage))) (p : Pool) (g : Group)
    (t : StopToken) (role : Role) (topology : ReplicationTopology) (e : Engine) :
    Launched adds p (p.startReplication g t role topology e).2 := by
  unfold Pool.startReplication
  split
  · exact .refl
  · exact .head (.supervises hsupervisor _) (launchJobs htask ..)

lemma registerCallback (p : Pool) (id : Nat) : Launched adds p (p.registerCallback id) := by
  unfold Pool.registerCallback
  split
  · exact .refl
  · next a ha =>
    have hsame : a.SameBuild (a.register p.host p.nextCallback).1 := .register ..
    have hcalled : Launched adds p.newCallback.2
        { p.newCallback.2 with host := (a.register p.host p.nextCallback).2 } := by
      unfold AgentServer.register
      split
      · exact .single (.works (.calls _))
      · exact .refl
    exact .head .numbers (hcalled.tail (.registers ha hsame))

lemma startServer {config : ServerConfig} (hagent : ∀ a, a.config = config → adds (.agent a))
    (htask : ∀ id stage, adds (.task (.serving id stage))) (p : Pool) (g : Group) (t : StopToken)
    (f : Framework) (inProcess notify : Bool) :
    Launched adds p (p.startServer g t f config inProcess notify).2 := by
  unfold Pool.startServer
  split
  · exact .refl
  · next a ha =>
    have hadded : Change adds p (p.addAgent a).2 := .serves (hagent a (AgentServer.config_build ha))
    have hregistered : Launched adds p
        (if notify then (p.addAgent a).2.registerCallback (p.addAgent a).1
          else (p.addAgent a).2) := by
      split
      · exact .head hadded (registerCallback ..)
      · exact .single hadded
    exact hregistered.tail (.spawns (htask ..) _ _)

end Launched

end Pool

end EdgeNode
