import EdgeNode.Proofs.Node.LeaderParts
import EdgeNode.Proofs.Node.Preparation
import Mathlib.Logic.Relation
/-!
# The boot of a node

A node boots step by step while its tasks, and others, go on.  Only a leader launches a broker and
replication, and only behind its gates: a configuration that was read, the role, the required files
and no request to be provisioned again.  `Node.Stands` says for every stage what has been passed and
what has not been launched; every step keeps it.
-/

namespace EdgeNode

open Relation

namespace Node

open LeaderPart

variable {n : Node} {c : Collaborators} {start p p' : Pool} {stage stage' : Boot}
  {turn : BootTurn} {w w' : Boot × Pool}

/-! ### The turns of a boot -/

/-- What a turn of a boot comes to, by its stage. -/
inductive Turn (n : Node) (c : Collaborators) (p : Pool) : Boot → BootTurn → Pool → Prop
  | unread {e : Error} (h : loadConfig p.host.files n.paths = .error e) :
    Turn n c p .starting (.done (.error e)) p
  | read {config? : Option Config} (h : loadConfig p.host.files n.paths = .ok config?) :
    Turn n c p .starting (.next (.configured config?)) p
  | unprepared {config? : Option Config} {e : Error} {host : Host}
    (h : n.prepare p.host c.target config? = (.error e, host)) :
    Turn n c p (.configured config?) (.done (.error e)) { p with host }
  | prepared {config? : Option Config} {b : Prepared} {host : Host}
    (h : n.prepare p.host c.target config? = (.ok b, host)) :
    Turn n c p (.configured config?) (.next (.settled b)) { p with host }
  | follows {b : Prepared} (h : b.leaderConfig? = none) :
    Turn n c p (.settled b) (.next (.leading b none)) p
  | unlaunched {b : Prepared} {config : Config} {e : Error} {files : Files} {entropy : Entropy}
    (hleader : b.leaderConfig? = some config)
    (h : BrokerConfig.prepare p.host.files p.host.entropy p.host.wallClock
      (config.identity p.host.name) n.paths.configurationDirectory n.paths.storageDirectory
        = (.error e, files, entropy)) :
    Turn n c p (.settled b) (.done (.error e)) { p with host := { p.host with files, entropy } }
  | launched {b : Prepared} {config : Config} {settings : BrokerConfig} {files : Files}
    {entropy : Entropy} (hleader : b.leaderConfig? = some config)
    (h : BrokerConfig.prepare p.host.files p.host.entropy p.host.wallClock
      (config.identity p.host.name) n.paths.configurationDirectory n.paths.storageDirectory
        = (.ok settings, files, entropy)) :
    Turn n c p (.settled b) (.next (.waiting b config p.brokers.length .entering))
      (({ p with host := { p.host with files, entropy } }.addBroker
        { config := settings, kind := c.broker, implementations := c.adapters }).2.launchBroker
          n.group n.token p.brokers.length)
  | waits {b : Prepared} {config : Config} {broker : Nat} {s s' : BrokerManager.WaitStage}
    {q : Pool} (h : p.readyStep n.group n.token broker .standard s = (.next s', q)) :
    Turn n c p (.waiting b config broker s) (.next (.waiting b config broker s')) q
  | rests {b : Prepared} {config : Config} {broker : Nat} {s : BrokerManager.WaitStage}
    {wake : Option Nat} {q : Pool}
    (h : p.readyStep n.group n.token broker .standard s = (.wait wake, q)) :
    Turn n c p (.waiting b config broker s) (.wait wake) q
  | accepted {b : Prepared} {config : Config} {broker : Nat} {s : BrokerManager.WaitStage}
    {q : Pool} (h : p.readyStep n.group n.token broker .standard s = (.done (.ok ()), q)) :
    Turn n c p (.waiting b config broker s) (.next (.ready b config broker)) q
  | cancelled {b : Prepared} {config : Config} {broker : Nat} {s : BrokerManager.WaitStage}
    {e : Error} {q : Pool}
    (h : p.readyStep n.group n.token broker .standard s = (.done (.error e), q)) :
    Turn n c p (.waiting b config broker s) (.done (.error e)) q
  | undescribed {b : Prepared} {config : Config} {broker : Nat} {e : Error}
    (h : ReplicationTopology.ofConfig config n.paths = .error e) :
    Turn n c p (.ready b config broker) (.done (.error e)) p
  | unreplicated {b : Prepared} {config : Config} {broker : Nat} {topology : ReplicationTopology}
    {e : Error} {q : Pool} (htopology : ReplicationTopology.ofConfig config n.paths = .ok topology)
    (h : p.startReplication n.group n.token b.role topology c.engine = (.error e, q)) :
    Turn n c p (.ready b config broker) (.done (.error e)) q
  | replicated {b : Prepared} {config : Config} {broker : Nat} {topology : ReplicationTopology}
    {supervisor : Nat} {q : Pool}
    (h : p.startReplication n.group n.token b.role topology c.engine = (.ok supervisor, q)) :
    Turn n c p (.ready b config broker) (.next (.leading b (some (broker, supervisor)))) q
  | unserved {b : Prepared} {leader : Option (Nat × Nat)} {e : Error} {q : Pool}
    (h : p.startServer n.group n.token c.framework b.server leader.isSome n.options.notifyReady
      = (.error e, q)) : Turn n c p (.leading b leader) (.done (.error e)) q
  | served {b : Prepared} {leader : Option (Nat × Nat)} {agent : Nat} {q : Pool}
    (h : p.startServer n.group n.token c.framework b.server leader.isSome n.options.notifyReady
      = (.ok agent, q)) :
    Turn n c p (.leading b leader) (.done (.ok { prepared := b, leader, agent }))
      (if b.mode = .operational then
        q.launchRefresh n.group n.token n.options.factsRefreshInterval n.options n.paths
      else q)

lemma turn_of_bootStep (h : n.bootStep c p stage = (turn, p')) : Turn n c p stage turn p' := by
  cases stage with
  | starting =>
    simp only [bootStep] at h
    split at h <;> obtain ⟨rfl, rfl⟩ := Prod.mk.inj h
    · exact .unread ‹_›
    · exact .read ‹_›
  | configured config? =>
    simp only [bootStep] at h
    split at h <;> obtain ⟨rfl, rfl⟩ := Prod.mk.inj h
    · exact .unprepared ‹_›
    · exact .prepared ‹_›
  | settled b =>
    simp only [bootStep, launchLeader] at h
    split at h
    · obtain ⟨rfl, rfl⟩ := Prod.mk.inj h
      exact .follows ‹_›
    · split at h <;> next hsettings =>
        obtain ⟨rfl, rfl⟩ := Prod.mk.inj h
        first
        | exact .unlaunched ‹_› hsettings
        | exact .launched ‹_› hsettings
  | waiting b config broker s =>
    simp only [bootStep] at h
    split at h <;> obtain ⟨rfl, rfl⟩ := Prod.mk.inj h
    · exact .waits ‹_›
    · exact .rests ‹_›
    · exact .accepted ‹_›
    · exact .cancelled ‹_›
  | ready b config broker =>
    simp only [bootStep, startLeader] at h
    split at h
    · obtain ⟨rfl, rfl⟩ := Prod.mk.inj h
      exact .undescribed ‹_›
    · split at h <;> obtain ⟨rfl, rfl⟩ := Prod.mk.inj h
      · exact .unreplicated ‹_› ‹_›
      · exact .replicated ‹_›
  | leading b leader =>
    simp only [bootStep, startAgent] at h
    split at h <;> obtain ⟨rfl, rfl⟩ := Prod.mk.inj h
    · exact .unserved ‹_›
    · exact .served ‹_›

/-- What a turn of a boot may add to the pool, by its stage. -/
inductive Adds (n : Node) : Boot → Pool.Addition → Prop
  | broker {b : Prepared} {config : Config} (h : b.leaderConfig? = some config) :
    Adds n (.settled b) .broker
  | runsBroker {b : Prepared} {config : Config} (h : b.leaderConfig? = some config) (id : Nat)
    (stage : BrokerManager.RunStage) : Adds n (.settled b) (.task (.broker id stage))
  | provisioning {b : Prepared} {config : Config} {broker : Nat} {s : BrokerManager.WaitStage}
    (id : Nat) (spec : TopologySpec) (stage : Provisioning) :
    Adds n (.waiting b config broker s) (.task (.provisioning id spec stage))
  | adapter {b : Prepared} {config : Config} {broker : Nat} {s : BrokerManager.WaitStage} :
    Adds n (.waiting b config broker s) .adapter
  | receiving {b : Prepared} {config : Config} {broker : Nat} {s : BrokerManager.WaitStage}
    (id : Nat) : Adds n (.waiting b config broker s) (.task (.receiving id))
  | working {b : Prepared} {config : Config} {broker : Nat} {s : BrokerManager.WaitStage}
    (id : Nat) : Adds n (.waiting b config broker s) (.task (.working id))
  | supervisor {b : Prepared} {config : Config} {broker : Nat} :
    Adds n (.ready b config broker) .supervisor
  | supervised {b : Prepared} {config : Config} {broker : Nat} (id : Nat) (j : ReplicationJob)
    (stage : SupervisedJob) : Adds n (.ready b config broker) (.task (.supervised id j stage))
  | agent {b : Prepared} {leader : Option (Nat × Nat)} {a : AgentServer}
    (h : a.config = b.server) : Adds n (.leading b leader) (.agent a)
  | serving {b : Prepared} {leader : Option (Nat × Nat)} (id : Nat) (stage : AgentServer.Stage) :
    Adds n (.leading b leader) (.task (.serving id stage))
  | refreshing {b : Prepared} {leader : Option (Nat × Nat)} (interval : Duration) (o : Options)
    (stage : Facts.Refresh) :
    Adds n (.leading b leader) (.task (.refreshing interval o n.paths stage))

/-- What a turn of a boot makes of the host before it launches anything. -/
inductive Readies (n : Node) (c : Collaborators) (h : Host) : Boot → Host → Prop
  | nothing (stage : Boot) : Readies n c h stage h
  | prepares {config? : Option Config} {result : Except Error Prepared} {host : Host}
    (hprepared : n.prepare h c.target config? = (result, host)) :
    Readies n c h (.configured config?) host
  | certifies {b : Prepared} {config : Config} {result : Except Error BrokerConfig} {files : Files}
    {entropy : Entropy} (hsettings : BrokerConfig.prepare h.files h.entropy h.wallClock
      (config.identity h.name) n.paths.configurationDirectory n.paths.storageDirectory
        = (result, files, entropy)) : Readies n c h (.settled b) { h with files, entropy }

/-- A turn of a boot works on the host and launches something. -/
lemma launched_of_bootStep (h : n.bootStep c p stage = (turn, p')) :
    ∃ host, n.Readies c p.host stage host ∧ Pool.Launched (n.Adds stage) { p with host } p' := by
  cases turn_of_bootStep h with
  | unread | read | follows | undescribed => exact ⟨_, .nothing _, .refl⟩
  | unprepared hprepared | prepared hprepared => exact ⟨_, .prepares hprepared, .refl⟩
  | unlaunched _ hsettings => exact ⟨_, .certifies hsettings, .refl⟩
  | launched hleader hsettings =>
    exact ⟨_, .certifies hsettings, .launchBroker (.broker hleader) (.runsBroker hleader) ..⟩
  | @waits b config broker s _ _ hready | @rests b config broker s _ _ hready
  | @accepted b config broker s _ hready | @cancelled b config broker s _ _ hready =>
    have hfollowing : Pool.Addition.Following (n.Adds (.waiting b config broker s)) :=
      ⟨⟨.adapter, .receiving, .working⟩, .provisioning⟩
    have hlaunched : Pool.Launched (n.Adds (.waiting b config broker s)) p
        (p.readyStep n.group n.token broker .standard s).2 := .readyStep hfollowing ..
    rw [hready] at hlaunched
    exact ⟨_, .nothing _, hlaunched⟩
  | @unreplicated b config broker topology _ _ _ hstarted
  | @replicated b config broker topology _ _ hstarted =>
    have hlaunched : Pool.Launched (n.Adds (.ready b config broker)) p
        (p.startReplication n.group n.token b.role topology c.engine).2 :=
      .startReplication .supervisor .supervised ..
    rw [hstarted] at hlaunched
    exact ⟨_, .nothing _, hlaunched⟩
  | @unserved b leader _ _ hserver =>
    have hlaunched : Pool.Launched (n.Adds (.leading b leader)) p (p.startServer n.group n.token
        c.framework b.server leader.isSome n.options.notifyReady).2 :=
      .startServer (fun _ => .agent) .serving ..
    rw [hserver] at hlaunched
    exact ⟨_, .nothing _, hlaunched⟩
  | @served b leader _ _ hserver =>
    have hlaunched : Pool.Launched (n.Adds (.leading b leader)) p (p.startServer n.group n.token
        c.framework b.server leader.isSome n.options.notifyReady).2 :=
      .startServer (fun _ => .agent) .serving ..
    rw [hserver] at hlaunched
    refine ⟨_, .nothing _, hlaunched.trans ?_⟩
    split
    · exact .single (.spawns (.refreshing ..) _ _)
    · exact .refl

/-- What a turn of a boot launches: a leader's broker once all is settled, and its replication once
the broker accepts connections. -/
lemma untouched_of_turn (h : n.bootStep c p stage = (turn, p')) (part : LeaderPart) :
    part.Untouched p p' ∨
    (part = .broker ∧ ∃ b config, stage = .settled b ∧ b.leaderConfig? = some config) ∨
    (part = .replication ∧ ∃ b config broker, stage = .ready b config broker) := by
  obtain ⟨host, -, hlaunched⟩ := launched_of_bootStep h
  by_cases hbeside : ∀ x, n.Adds stage x → part.Beside x
  · have hhost : part.Untouched p { p with host } := .of_eq rfl rfl rfl
    exact .inl (hhost.trans (.of_launched (hlaunched.mono hbeside)))
  · right
    push Not at hbeside
    obtain ⟨x, hadds, hpart⟩ := hbeside
    cases hadds with
    | broker hleader => exact .inl ⟨not_not.1 hpart, _, _, rfl, hleader⟩
    | runsBroker hleader id stage =>
      cases part with
      | broker => exact .inl ⟨rfl, _, _, rfl, hleader⟩
      | replication => exact absurd not_false hpart
    | supervisor => exact .inr ⟨not_not.1 hpart, _, _, _, rfl⟩
    | supervised id j stage =>
      cases part with
      | broker => exact absurd not_false hpart
      | replication => exact .inr ⟨rfl, _, _, _, rfl⟩
    | provisioning id => exact absurd (part.not_runs_provisioning id) hpart
    | receiving | working | serving | refreshing => exact absurd part.not_runs_other hpart
    | adapter | agent => exact absurd trivial hpart

lemma replication_untouched (h : n.bootStep c p stage = (turn, p'))
    (hstage : ∀ b config broker, stage ≠ .ready b config broker) : replication.Untouched p p' := by
  rcases untouched_of_turn h replication with
    huntouched | ⟨hpart, -⟩ | ⟨-, b, config, broker, hready⟩
  · exact huntouched
  · contradiction
  · exact absurd hready (hstage b config broker)

/-! ### The course of a boot -/

/-- A step in the course of a boot. -/
inductive Booting (n : Node) (c : Collaborators) : Boot × Pool → Boot × Pool → Prop
  /-- The boot goes on. -/
  | own {stage stage' : Boot} {p p' : Pool} (h : n.bootStep c p stage = (.next stage', p')) :
    Booting n c (stage, p) (stage', p')
  /-- Others do something else than to launch what only a leader runs. -/
  | others {stage : Boot} {p p' : Pool} (h : ∀ part : LeaderPart, part.Untouched p p') :
    Booting n c (stage, p) (stage, p')

/-- A course of a boot. -/
abbrev Boots (n : Node) (c : Collaborators) : Boot × Pool → Boot × Pool → Prop :=
  ReflTransGen (Booting n c)

/-- The boot has read a configuration, and then passed the gates of a leader when it settled what is
to be started. -/
def Passed (n : Node) (c : Collaborators) (start : Pool) (w : Boot × Pool) (config : Config) :
    Prop :=
  ∃ p₁ p₂ b p₃, n.Boots c (.starting, start) (.starting, p₁) ∧
    loadConfig p₁.host.files n.paths = .ok (some config) ∧
    n.Boots c (.configured (some config), p₁) (.configured (some config), p₂) ∧
    n.Leads p₂.host config ∧
    n.bootStep c p₂ (.configured (some config)) = (.next (.settled b), p₃) ∧
    n.Boots c (.settled b, p₃) w

/-- The boot has asked its broker, before any replication was started, and the broker accepted
connections. -/
def Asked (n : Node) (c : Collaborators) (start : Pool) (w : Boot × Pool) : Prop :=
  ∃ b config broker q m q', n.Boots c (.starting, start) (.waiting b config broker .asking, q) ∧
    replication.Untouched start q ∧
    q.brokers[broker]? = some m ∧ m.isReady q.host.uptime = true ∧
    n.bootStep c q (.waiting b config broker .asking) = (.next (.ready b config broker), q') ∧
    n.Boots c (.ready b config broker, q') w

lemma Passed.mono {config : Config} (h : n.Passed c start w config) (hstep : n.Boots c w w') :
    n.Passed c start w' config := by
  obtain ⟨p₁, p₂, b, p₃, hbegun, hloaded, hread, hleads, hsettled, hlater⟩ := h
  exact ⟨p₁, p₂, b, p₃, hbegun, hloaded, hread, hleads, hsettled, hlater.trans hstep⟩

lemma Asked.mono (h : n.Asked c start w) (hstep : n.Boots c w w') : n.Asked c start w' := by
  obtain ⟨b, config, broker, q, m, q', hbegun, hnone, hm, hready, hasked, hlater⟩ := h
  exact ⟨b, config, broker, q, m, q', hbegun, hnone, hm, hready, hasked, hlater.trans hstep⟩

/-- What holds at each stage of a boot that began with a pool. -/
inductive Stands (n : Node) (c : Collaborators) (start : Pool) : Boot × Pool → Prop
  | starting {p : Pool} (h : ∀ part : LeaderPart, part.Untouched start p) :
    Stands n c start (.starting, p)
  | configured {config? : Option Config} {p : Pool}
    (h : ∀ part : LeaderPart, part.Untouched start p)
    (hread : ∃ q, n.Boots c (.starting, start) (.starting, q) ∧
      loadConfig q.host.files n.paths = .ok config? ∧
      n.Boots c (.configured config?, q) (.configured config?, p)) :
    Stands n c start (.configured config?, p)
  | settled {b : Prepared} {p : Pool} (h : ∀ part : LeaderPart, part.Untouched start p)
    (hpassed : ∀ config, b.leaderConfig? = some config → n.Passed c start (.settled b, p) config) :
    Stands n c start (.settled b, p)
  | waiting {b : Prepared} {config : Config} {broker : Nat} {stage : BrokerManager.WaitStage}
    {p : Pool} (h : replication.Untouched start p) (hmanaged : broker < p.brokers.length)
    (hmode : b.mode = .operational)
    (hpassed : n.Passed c start (.waiting b config broker stage, p) config) :
    Stands n c start (.waiting b config broker stage, p)
  | ready {b : Prepared} {config : Config} {broker : Nat} {p : Pool}
    (h : replication.Untouched start p) (hmode : b.mode = .operational)
    (hpassed : n.Passed c start (.ready b config broker, p) config)
    (hasked : n.Asked c start (.ready b config broker, p)) :
    Stands n c start (.ready b config broker, p)
  | following {b : Prepared} {p : Pool} (h : ∀ part : LeaderPart, part.Untouched start p) :
    Stands n c start (.leading b none, p)
  | leading {b : Prepared} {config : Config} {leader : Nat × Nat} {p : Pool}
    (hmode : b.mode = .operational)
    (hpassed : n.Passed c start (.leading b (some leader), p) config)
    (hasked : n.Asked c start (.leading b (some leader), p)) :
    Stands n c start (.leading b (some leader), p)

namespace Stands

lemma others (hs : n.Stands c start (stage, p)) (h : ∀ part : LeaderPart, part.Untouched p p') :
    n.Stands c start (stage, p') := by
  have hstep : n.Boots c (stage, p) (stage, p') := .single (.others h)
  cases hs with
  | starting hnone => exact .starting fun part => (hnone part).trans (h part)
  | configured hnone hread =>
    obtain ⟨q, hstart, hloaded, hlater⟩ := hread
    exact .configured (fun part => (hnone part).trans (h part))
      ⟨q, hstart, hloaded, hlater.trans hstep⟩
  | settled hnone hpassed =>
    exact .settled (fun part => (hnone part).trans (h part))
      fun config hleader => (hpassed config hleader).mono hstep
  | waiting hnone hmanaged hmode hpassed =>
    exact .waiting (hnone.trans (h _)) (Nat.lt_of_lt_of_eq hmanaged (h broker).managed.symm) hmode
      (hpassed.mono hstep)
  | ready hnone hmode hpassed hasked =>
    exact .ready (hnone.trans (h _)) hmode (hpassed.mono hstep) (hasked.mono hstep)
  | following hnone => exact .following fun part => (hnone part).trans (h part)
  | leading hmode hpassed hasked => exact .leading hmode (hpassed.mono hstep) (hasked.mono hstep)

lemma own (hs : n.Stands c start (stage, p)) (hstart : n.Boots c (.starting, start) (stage, p))
    (h : n.bootStep c p stage = (.next stage', p')) : n.Stands c start (stage', p') := by
  have hstep : n.Boots c (stage, p) (stage', p') := .single (.own h)
  have hunreplicated := replication_untouched h
  cases hs with
  | starting hnone =>
    cases turn_of_bootStep h with
    | read hloaded => exact .configured hnone ⟨p, hstart, hloaded, .refl⟩
  | configured hnone hread =>
    cases turn_of_bootStep h with
    | @prepared _ b _ hprepared =>
      refine .settled (fun part => (hnone part).trans (.of_eq rfl rfl rfl)) fun config hleader => ?_
      obtain ⟨rfl, hleads⟩ := leads_of_prepare hprepared hleader
      obtain ⟨q, hbegun, hloaded, hlater⟩ := hread
      exact ⟨q, p, b, _, hbegun, hloaded, hlater, hleads, h, .refl⟩
  | settled hnone hpassed =>
    cases turn_of_bootStep h with
    | follows _ => exact .following hnone
    | launched hleader =>
      refine .waiting ((hnone replication).trans (hunreplicated (by simp))) ?_
        (leaderConfig?_eq_some hleader).1 ((hpassed _ hleader).mono hstep)
      simp [Pool.addBroker, Pool.launchBroker, Pool.modifyBroker, Pool.spawn]
  | @waiting b config broker stage _ hnone hmanaged hmode hpassed =>
    have hnone' := hnone.trans (hunreplicated (by simp))
    cases turn_of_bootStep h with
    | waits hready =>
      have hbroker : LeaderPart.broker.Untouched p
          (p.readyStep n.group n.token broker .standard stage).2 := .readyStep ..
      rw [hready] at hbroker
      exact .waiting hnone' (Nat.lt_of_lt_of_eq hmanaged hbroker.managed.symm) hmode
        (hpassed.mono hstep)
    | accepted hready =>
      -- the broker was asked in this very turn
      obtain ⟨rfl, m, hm, hisReady⟩ := Pool.readyStep_ok hmanaged hready
      exact .ready hnone' hmode (hpassed.mono hstep)
        ⟨b, config, broker, p, m, _, hstart, hnone, hm, hisReady, h, .refl⟩
  | ready hnone hmode hpassed hasked =>
    cases turn_of_bootStep h with
    | replicated _ => exact .leading hmode (hpassed.mono hstep) (hasked.mono hstep)
  | following hnone => cases turn_of_bootStep h
  | leading hmode hpassed hasked => cases turn_of_bootStep h

end Stands

lemma stands_of_boots (h : n.Boots c (.starting, start) w) : n.Stands c start w := by
  induction h with
  | refl => exact .starting fun part => .refl part start
  | tail hstart hstep ih =>
    cases hstep with
    | own h => exact ih.own hstart h
    | others h => exact ih.others h

/-! ### What a boot answers -/

lemma untouched_of_wait {wake : Option Nat} (h : n.bootStep c p stage = (.wait wake, p'))
    (part : LeaderPart) : part.Untouched p p' := by
  rcases untouched_of_turn h part with hnone | ⟨-, b, config, rfl, -⟩ | ⟨-, b, config, broker, rfl⟩
  · exact hnone
  · cases turn_of_bootStep h
  · cases turn_of_bootStep h

/-- Whoever waits for a boot sees it go on as it can, and in the end its last turn. -/
lemma boots_of_runUpTo {fuel : Nat} {result : Except Error Booted}
    (h : Pool.runUpTo (n.bootStep c) fuel p stage = (some result, p')) :
    ∃ stage' q q', n.Boots c (stage, p) (stage', q) ∧
      n.bootStep c q stage' = (.done result, q') ∧ p' = q'.tick := by
  refine Pool.course_of_runUpTo .own ?_ ?_ ?_ ?_ h
  · exact fun hwait => .others (untouched_of_wait hwait)
  · exact fun htask => .others fun _ => .turn htask
  · exact fun _ _ => .others fun _ => .of_eq rfl rfl rfl
  · exact fun _ _ _ => .others fun _ => .of_eq rfl rfl rfl

/-- A boot whose plugins are there is a run of its turns. -/
lemma boot_eq {loaded : Bool} {n' : Node} (h : n.loadPlugins = (.ok loaded, n'))
    (c : Collaborators) (p : Pool) :
    n.boot c p = ((p.run (n'.bootStep c) .starting).1, n', (p.run (n'.bootStep c) .starting).2) := by
  rw [boot, h]

lemma bootStep_starting_error {e : Error} (h : loadConfig p.host.files n.paths = .error e)
    (c : Collaborators) : n.bootStep c p .starting = (.done (.error e), p) := by
  rw [bootStep, h]

lemma bootStep_starting_ok {config? : Option Config}
    (h : loadConfig p.host.files n.paths = .ok config?) (c : Collaborators) :
    n.bootStep c p .starting = (.next (.configured config?), p) := by
  rw [bootStep, h]

lemma bootStep_configured_error {config? : Option Config} {e : Error} {host : Host}
    (h : n.prepare p.host c.target config? = (.error e, host)) (other : Collaborators) :
    n.bootStep other p (.configured config?) = (.done (.error e), { p with host }) := by
  rw [bootStep, prepare_error h other.target]

/-- A configuration that cannot be read ends the boot at once. -/
lemma boot_of_unread {n' : Node} {loaded : Bool} {e : Error}
    (hplugins : n.loadPlugins = (.ok loaded, n'))
    (h : loadConfig p.host.files n'.paths = .error e) (c : Collaborators) :
    n.boot c p = (some (.error e), n', p.tick) := by
  have hrun : p.run (n'.bootStep c) .starting = (some (.error e), p.tick) :=
    Pool.runUpTo_done (bootStep_starting_error h c) 999999999
  rw [boot_eq hplugins, hrun]

/-- A preparation that fails ends the boot, and only the host has changed. -/
lemma boot_of_unprepared {n' : Node} {loaded : Bool} {config? : Option Config} {e : Error}
    {host : Host} (hplugins : n.loadPlugins = (.ok loaded, n'))
    (hread : loadConfig p.host.files n'.paths = .ok config?)
    (h : n'.prepare p.tick.host c.target config? = (.error e, host)) (other : Collaborators) :
    n.boot other p = (some (.error e), n', { p.tick with host }.tick) := by
  have hrun : p.run (n'.bootStep other) .starting
      = (some (.error e), { p.tick with host }.tick) :=
    (Pool.runUpTo_next (bootStep_starting_ok hread other) 999999999).trans
      (Pool.runUpTo_done (bootStep_configured_error h other) 999999998)
  rw [boot_eq hplugins, hrun]

/-! ### The modes of a boot -/

/-- The mode of a boot at a stage, once the configuration is read. -/
def modeAt? (n : Node) (p : Pool) : Boot → Option Mode
  | .starting => none
  | .configured config? => some (n.selected p.host config?)
  | .settled b => some b.mode
  | .waiting b _ _ _ => some b.mode
  | .ready b _ _ => some b.mode
  | .leading b _ => some b.mode

/-- Why the boot of a provisioned node fails. -/
inductive FailsFor (n : Node) (c : Collaborators) (p : Pool) : Boot → Error → Prop
  /-- The signing key is refused. -/
  | signingKey {config? : Option Config} {e : Error} (h : n.options.signingPublicKey = .error e) :
    FailsFor n c p (.configured config?) e
  /-- The broker's settings, with its certificates, cannot be made. -/
  | settings {b : Prepared} {config : Config} {e : Error}
    (hleader : b.leaderConfig? = some config)
    (h : (BrokerConfig.prepare p.host.files p.host.entropy p.host.wallClock
      (config.identity p.host.name) n.paths.configurationDirectory n.paths.storageDirectory).1
        = .error e) : FailsFor n c p (.settled b) e
  /-- The wait for the broker is cancelled. -/
  | cancelled {b : Prepared} {config : Config} {broker : Nat} {stage : BrokerManager.WaitStage}
    (h : p.host.isCancelled n.token = true) :
    FailsFor n c p (.waiting b config broker stage) (.ready "shutdown requested")
  /-- The configuration does not describe a topology. -/
  | topology {b : Prepared} {config : Config} {broker : Nat} {e : Error}
    (h : ReplicationTopology.ofConfig config n.paths = .error e) :
    FailsFor n c p (.ready b config broker) e
  /-- The supervisor refuses the topology or the role. -/
  | supervisor {b : Prepared} {config : Config} {broker : Nat} {topology : ReplicationTopology}
    {e : Error} (htopology : ReplicationTopology.ofConfig config n.paths = .ok topology)
    (h : Supervisor.start b.role topology = .error e) : FailsFor n c p (.ready b config broker) e
  /-- The agent server cannot be built. -/
  | agent {b : Prepared} {leader : Option (Nat × Nat)} {e : Error}
    (h : AgentServer.build c.framework p.host b.server leader.isSome = .error e) :
    FailsFor n c p (.leading b leader) e

/-- What a node does to be ready for its mode, apart from its signing key, stops no boot of a
provisioned node. -/
lemma failsFor_of_turn {e : Error} (hmode : n.modeAt? p stage = some .operational)
    (h : n.bootStep c p stage = (.done (.error e), p')) : n.FailsFor c p stage e := by
  cases turn_of_bootStep h with
  | unread _ => contradiction
  | unprepared hprepared =>
    exact .signingKey (prepare_operational_error (Option.some.inj hmode) hprepared)
  | unlaunched hleader hsettings => exact .settings hleader (congrArg Prod.fst hsettings)
  | cancelled hready =>
    obtain ⟨hcancelled, rfl⟩ := Pool.readyStep_error hready
    exact .cancelled hcancelled
  | undescribed htopology => exact .topology htopology
  | unreplicated htopology hstarted =>
    exact .supervisor htopology (Pool.startReplication_error hstarted)
  | unserved hserver => exact .agent (Pool.startServer_error hserver)

namespace Stands

/-- A leader's part is launched only behind the gates. -/
lemma passed (hs : n.Stands c start (stage, p)) (h : n.bootStep c p stage = (turn, p'))
    {part : LeaderPart} (htouched : ¬ part.Untouched start p') :
    ∃ config, n.Passed c start (stage, p) config := by
  have hturn := untouched_of_turn h part
  cases hs with
  | starting hnone | configured hnone _ | following hnone =>
    rcases hturn with huntouched | ⟨-, b, config, hstage, -⟩ | ⟨-, b, config, broker, hstage⟩
    · exact absurd ((hnone part).trans huntouched) htouched
    · contradiction
    · contradiction
  | settled hnone hpassed =>
    rcases hturn with huntouched | ⟨-, b, config, hstage, hleader⟩ | ⟨-, b, config, broker, hstage⟩
    · exact absurd ((hnone part).trans huntouched) htouched
    · obtain rfl := Boot.settled.inj hstage
      exact ⟨config, hpassed config hleader⟩
    · contradiction
  | waiting _ _ _ hpassed => exact ⟨_, hpassed⟩
  | ready _ _ hpassed _ => exact ⟨_, hpassed⟩
  | leading _ hpassed _ => exact ⟨_, hpassed⟩

/-- Replication is started only after the broker has said that it accepts connections. -/
lemma asked (hs : n.Stands c start (stage, p)) (h : n.bootStep c p stage = (turn, p'))
    (htouched : ¬ replication.Untouched start p') : n.Asked c start (stage, p) := by
  have hturn := replication_untouched h
  cases hs with
  | starting hnone | configured hnone _ | settled hnone _ | following hnone =>
    exact absurd ((hnone replication).trans (hturn (by simp))) htouched
  | waiting hnone _ _ _ => exact absurd (hnone.trans (hturn (by simp))) htouched
  | ready _ _ _ hasked => exact hasked
  | leading _ _ hasked => exact hasked

section Provisioning

variable (hs : n.Stands c start (stage, p)) (hmode : n.modeAt? p stage = some .provisioning)

include hs hmode

/-- A node that waits to be provisioned launches no part of a leader. -/
lemma untouched_of_provisioning (h : n.bootStep c p stage = (turn, p')) (part : LeaderPart) :
    part.Untouched start p' := by
  have hturn := untouched_of_turn h part
  cases hs with
  | starting _ => contradiction
  | configured hnone _ | following hnone =>
    rcases hturn with huntouched | ⟨-, b, config, hstage, -⟩ | ⟨-, b, config, broker, hstage⟩
    · exact (hnone part).trans huntouched
    · contradiction
    · contradiction
  | settled hnone _ =>
    rcases hturn with huntouched | ⟨-, b, config, hstage, hleader⟩ | ⟨-, b, config, broker, hstage⟩
    · exact (hnone part).trans huntouched
    · obtain rfl := Boot.settled.inj hstage
      have hoperational := (leaderConfig?_eq_some hleader).1
      rw [modeAt?, hoperational] at hmode
      contradiction
    · contradiction
  | waiting _ _ hoperational _ | ready _ hoperational _ _ | leading hoperational _ _ =>
    rw [modeAt?, hoperational] at hmode
    contradiction

/-- Nor does it ask the collaborators that a leader works with. -/
lemma bootStep_of_provisioning (broker : BrokerKind) (adapters : List AdapterKind)
    (engine : Engine) :
    n.bootStep { c with broker, adapters, engine } p stage = n.bootStep c p stage := by
  cases hs with
  | starting _ => contradiction
  | configured _ _ => rfl
  | @settled b _ _ _ =>
    have hnone : b.leaderConfig? = none := by
      rw [modeAt?, Option.some.injEq] at hmode
      rw [Prepared.leaderConfig?, hmode]
      exact if_neg (by simp)
    simp only [bootStep, hnone]
  | following _ => rfl
  | waiting _ _ hoperational _ | ready _ hoperational _ _ | leading hoperational _ _ =>
    rw [modeAt?, hoperational] at hmode
    contradiction

end Provisioning

end Stands

/-- The boot of a provisioned node does not ask the provisioning target. -/
lemma bootStep_of_operational (hmode : n.modeAt? p stage = some .operational)
    (target : ProvisioningTarget) :
    n.bootStep { c with target } p stage = n.bootStep c p stage := by
  cases stage with
  | starting => contradiction
  | configured config? =>
    simp only [bootStep]
    rw [prepare_operational (Option.some.inj hmode) target c.target]
  | settled b => rfl
  | waiting b config broker s => rfl
  | ready b config broker => rfl
  | leading b leader => rfl

/-- **The gates of a boot.**  A boot that fails for its plugins or its configuration has changed
nothing but the time, one that fails for its mode only the host, and whoever it would have worked
with makes no difference.  In every course of a boot a broker and replication are launched only for
a leader's configuration that was read and passed the gates when the mode was selected, replication
only after the broker has said that it accepts connections, and neither while the node waits to be
provisioned.  A provisioned node boots unless its signing key, its broker, its replication or its
agent server fails: neither its user's seed nor its facts, its directories or its credentials stop
it, and the provisioning target is not even asked. -/
theorem boot_gated (n : Node) (c : Collaborators) (start : Pool) :
    (∀ e n', n.loadPlugins = (.error e, n') →
      ∀ other, n.boot other start = (some (.error e), n', start)) ∧
    ∀ loaded n', n.loadPlugins = (.ok loaded, n') →
      (∀ e, loadConfig start.host.files n'.paths = .error e →
        ∀ other, n.boot other start = (some (.error e), n', start.tick)) ∧
      (∀ config? e host, loadConfig start.host.files n'.paths = .ok config? →
        n'.prepare start.tick.host c.target config? = (.error e, host) →
        ∀ other, n.boot other start = (some (.error e), n', { start.tick with host }.tick)) ∧
      (∀ result p, n.boot c start = (some result, n', p) →
        ∃ stage q q', n'.Boots c (.starting, start) (stage, q) ∧
          n'.bootStep c q stage = (.done result, q') ∧ p = q'.tick) ∧
      ∀ stage p turn p', n'.Boots c (.starting, start) (stage, p) →
        n'.bootStep c p stage = (turn, p') →
        (∀ part : LeaderPart, ¬ part.Untouched start p' →
          ∃ config, n'.Passed c start (stage, p) config) ∧
        (¬ replication.Untouched start p' → n'.Asked c start (stage, p)) ∧
        (n'.modeAt? p stage = some .provisioning →
          (∀ part : LeaderPart, part.Untouched start p') ∧
          ∀ broker adapters engine,
            n'.bootStep { c with broker, adapters, engine } p stage = (turn, p')) ∧
        (n'.modeAt? p stage = some .operational →
          (∀ target, n'.bootStep { c with target } p stage = (turn, p')) ∧
          ∀ e, turn = .done (.error e) → n'.FailsFor c p stage e) := by
  constructor
  · intro e n' hplugins other
    rw [boot, hplugins]
  · intro loaded n' hplugins
    refine ⟨fun e h => boot_of_unread hplugins h,
      fun config? e host hread h => boot_of_unprepared hplugins hread h, ?_, ?_⟩
    · intro result p hboot
      rw [boot_eq hplugins] at hboot
      obtain ⟨hresult, -, hpool⟩ := by simpa only [Prod.mk.injEq] using hboot
      exact boots_of_runUpTo (Prod.ext hresult hpool)
    · intro stage p turn p' hcourse hturn
      have hstands := stands_of_boots hcourse
      refine ⟨fun part => hstands.passed hturn, hstands.asked hturn, fun hmode => ⟨?_, ?_⟩,
        fun hmode => ⟨?_, ?_⟩⟩
      · exact hstands.untouched_of_provisioning hmode hturn
      · intro broker adapters engine
        exact (hstands.bootStep_of_provisioning hmode broker adapters engine).trans hturn
      · intro target
        exact (bootStep_of_operational hmode target).trans hturn
      · rintro e rfl
        exact failsFor_of_turn hmode hturn

/-- So many turns of a boot that nothing comes between. -/
def advance (n : Node) (c : Collaborators) : Nat → Boot × Pool → Boot × Pool
  | 0, w => w
  | turns + 1, (stage, p) =>
    match n.bootStep c p stage with
    | (.next stage, p) => n.advance c turns (stage, p)
    | _ => (stage, p)

lemma boots_advance (n : Node) (c : Collaborators) (turns : Nat) (w : Boot × Pool) :
    n.Boots c w (n.advance c turns w) := by
  induction turns generalizing w with
  | zero => exact .refl
  | succ turns ih =>
    obtain ⟨stage, p⟩ := w
    rw [advance]
    split
    · next stage' p' hown => exact .head (.own hown) (ih _)
    · exact .refl

/-- A provisioned leader but for the seed of its user, which it makes itself. -/
def leader : Node where
  options := { signingKey := "0000000000000000000000000000000000000000000000000000000000000000" }
  paths := .ofFiles "/etc/server.conf" "/var"
  plugins := { loaded := true }
  token := 0
  group := 0

/-- Its files. -/
def leaderPool : Pool where
  host :=
    { files :=
        { entries :=
            [(["etc"], .directory 0o755), (["var"], .directory 0o755),
             (["etc", "server.conf"],
              .file (Bytes.ofText ("machine_room.role = leader\nmachine_room.site = dc1\n"
                ++ "machine_room.source.host = backend\n")) 0o600),
             (["etc", "server.jwt"], .file [] 0o600),
             (["etc", "server.seed"], .file [] 0o600)] } }

/-- A broker that accepts connections at once. -/
def willing : Collaborators where
  broker := .scripted (fun _ => true) .lasts

/-- Its boot, when it is about to start its replication. -/
def accepted : Boot × Pool :=
  leader.advance willing 5 (.starting, leaderPool)

/-- It has passed the gates and asked its broker before. -/
theorem boot_gated_leader :
    ¬ replication.Untouched leaderPool (leader.bootStep willing accepted.2 accepted.1).2 ∧
    (∃ config, leader.Passed willing leaderPool accepted config) ∧
    leader.Asked willing leaderPool accepted := by
  have hone : (leader.bootStep willing accepted.2 accepted.1).2.supervisors.length = 1 := by
    decide +kernel
  have hcourse : leader.Boots willing (.starting, leaderPool) accepted :=
    boots_advance leader willing 5 _
  -- what follows must not run the boot once more
  generalize accepted = w at hone hcourse ⊢
  obtain ⟨stage, p⟩ := w
  rcases hturn : leader.bootStep willing p stage with ⟨turn, p'⟩
  have hone' : p'.supervisors.length = 1 := by rw [← hone, hturn]
  have htouched : ¬ replication.Untouched leaderPool p' := fun huntouched =>
    absurd (hone'.symm.trans huntouched.managed) (by decide)
  obtain ⟨-, -, -, hturns⟩ := (boot_gated leader willing leaderPool).2 false leader rfl
  obtain ⟨hpassed, hasked, -⟩ := hturns stage p turn p' hcourse hturn
  exact ⟨htouched, hpassed replication htouched, hasked htouched⟩

end Node

end EdgeNode
