import EdgeNode.Node
import Mathlib.Data.List.Basic
/-!
# What a node settles before it starts anything

A node first sees to the seed of its user and to its facts, whatever comes of that, and then selects
its mode.  The host of that moment is `Node.selecting`.  On a provisioned node only a signing key
that is refused stops the preparation; nothing that is done for the mode does.
-/

namespace EdgeNode

/-! ### Gates -/

lemma Role.ofConfig_eq_leader {config : Config} :
    Role.ofConfig (some config) = .leader ↔ config.options.get? Config.roleOption = some "leader" := by
  rcases hrole : config.options.get? Config.roleOption with _ | role
  · simp [Role.ofConfig, Role.ofOption, Config.option, hrole]
  · simp [Role.ofConfig, Role.ofOption, Config.option, hrole]

lemma Mode.selectFor_eq_operational {f : Files} {paths : RuntimePaths} {config : Config} :
    Mode.selectFor f paths (some config) = .operational ↔
      (∀ path ∈ paths.requiredFiles, f.has path = true) ∧
        config.boolOption Config.provisionOption ≠ some (.ok true) := by
  have hflag : Mode.provisionFlag config ≠ some true ↔
      config.boolOption Config.provisionOption ≠ some (.ok true) := by
    unfold provisionFlag
    rcases config.boolOption Config.provisionOption with _ | e | flag
    · simp
    · simp [Except.toOption]
    · simp [Except.toOption]
  rw [← hflag, ← List.all_eq_true]
  unfold selectFor select
  split <;> simp_all

namespace Node

variable {n : Node} {h h' : Host} {target : ProvisioningTarget} {config? : Option Config}
  {config : Config} {b : Prepared} {e : Error}

/-- The host when the mode is selected. -/
def selecting (n : Node) (h : Host) : Host :=
  let (_, files, entropy) := h.files.ensureUserSeed h.entropy n.paths.userSeedFile
  (Facts.save { h with files, entropy } n.options n.paths).2

/-- The mode that is selected. -/
def selected (n : Node) (h : Host) (config? : Option Config) : Mode :=
  Mode.selectFor (n.selecting h).files n.paths config?

lemma prepare_eq (n : Node) (h : Host) (target : ProvisioningTarget) (config? : Option Config) :
    n.prepare h target config? =
      match ServerConfig.materialize (n.selecting h).files (n.selecting h).entropy n.paths n.options
        (n.selecting h).name (n.selected h config?) config? with
      | (.error e, files, entropy) => (.error e, { n.selecting h with files, entropy })
      | (.ok server, files, entropy) =>
        let (actions, files) := applyPostActions files target server n.paths config?
        (.ok
          { config := config?
            role := Role.ofConfig config?
            mode := n.selected h config?
            server, actions },
          { n.selecting h with files, entropy }) := rfl

/-- What is settled is of the configuration and of the selected mode. -/
lemma settled_of_prepare (hb : n.prepare h target config? = (.ok b, h')) :
    b.config = config? ∧ b.role = Role.ofConfig config? ∧ b.mode = n.selected h config? := by
  rw [prepare_eq] at hb
  split at hb
  · exact absurd (congrArg Prod.fst hb) (by simp)
  · obtain rfl := Except.ok.inj (congrArg Prod.fst hb)
    exact ⟨rfl, rfl, rfl⟩

/-- A preparation that fails does so before anybody is told of the mode. -/
lemma prepare_error (he : n.prepare h target config? = (.error e, h'))
    (other : ProvisioningTarget) : n.prepare h other config? = (.error e, h') := by
  rw [prepare_eq] at he ⊢
  split at he
  · exact he
  · exact absurd (congrArg Prod.fst he) (by simp)

section Operational

variable (hmode : n.selected h config? = .operational)

include hmode

/-- The provisioning target of a provisioned node is not asked. -/
lemma prepare_operational (target other : ProvisioningTarget) :
    n.prepare h target config? = n.prepare h other config? := by
  rw [prepare_eq, prepare_eq, hmode]
  simp only [ServerConfig.materialize]
  cases operationalSettings n.paths n.options with
  | error e => rfl
  | ok settings => rfl

/-- Only a signing key that is refused stops the preparation of a provisioned node. -/
lemma prepare_operational_error (he : n.prepare h target config? = (.error e, h')) :
    n.options.signingPublicKey = .error e := by
  rw [prepare_eq, hmode] at he
  simp only [ServerConfig.materialize, operationalSettings] at he
  rcases hkey : n.options.signingPublicKey with e' | key
  · rw [hkey] at he
    exact congrArg Except.error (Except.error.inj (congrArg Prod.fst he))
  · rw [hkey] at he
    exact absurd (congrArg Prod.fst he) (by simp [Except.map])

end Operational

/-! ### The gates of a leader -/

/-- The node may lead, given a configuration that was read and the host on which it is prepared. -/
structure Leads (n : Node) (h : Host) (config : Config) : Prop where
  /-- Its role is exactly that of the leader. -/
  role : config.options.get? Config.roleOption = some "leader"
  /-- The required files are there when the mode is selected. -/
  files : ∀ path ∈ n.paths.requiredFiles, (n.selecting h).files.has path = true
  /-- It was not asked to be provisioned again. -/
  provision : config.boolOption Config.provisionOption ≠ some (.ok true)

lemma leaderConfig?_eq_some (hb : b.leaderConfig? = some config) :
    b.mode = .operational ∧ b.role = .leader ∧ b.config = some config := by
  unfold Prepared.leaderConfig? at hb
  split at hb
  · next hgate => exact ⟨hgate.1, hgate.2, hb⟩
  · contradiction

/-- A node runs a broker only if it passes the gates. -/
lemma leads_of_prepare (hb : n.prepare h target config? = (.ok b, h'))
    (hleader : b.leaderConfig? = some config) : config? = some config ∧ n.Leads h config := by
  obtain ⟨hconfig, hrole, hmode⟩ := settled_of_prepare hb
  obtain ⟨hoperational, hisLeader, hsome⟩ := leaderConfig?_eq_some hleader
  obtain rfl : config? = some config := hconfig.symm.trans hsome
  obtain ⟨hfiles, hflag⟩ := Mode.selectFor_eq_operational.1 (hmode.symm.trans hoperational)
  exact ⟨rfl, Role.ofConfig_eq_leader.1 (hrole.symm.trans hisLeader), hfiles, hflag⟩

end Node

end EdgeNode
