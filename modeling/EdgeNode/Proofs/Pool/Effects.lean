import EdgeNode.Proofs.Files.Edits
import EdgeNode.Proofs.Pool.Steps
import EdgeNode.Proofs.Replication.Runs
import EdgeNode.Proofs.Store.Specs
/-!
# What tasks do to the host

Whatever a task does to its host is made of a few effects: an edit of the files, a request to a
store, a change to a core bus, and notes of who was asked or called.  `Pool.affected_stepActivity`
says so once for every kind of task, together with the paths that the task writes to.  What all
effects keep, every task keeps.
-/

namespace EdgeNode

namespace Host

/-- An effect of work on the host that writes to the given paths at most. -/
inductive Effect (writes : String → Prop) (h : Host) : Host → Prop
  /-- An edit of the files. -/
  | edits {files : Files} (hedit : Files.Edit writes h.files files) :
    Effect writes h { h with files }
  /-- A request to a store. -/
  | asks (url : String) (r : Store.Request) : Effect writes h
    { h with network := h.network.setStore url ((h.store url).serve h.wallClock r) }
  /-- A change to a core bus. -/
  | signals (url : String) (bus : Bus) : Effect writes h
    { h with network := h.network.setStore url { h.store url with bus } }
  /-- Random bytes are drawn. -/
  | draws (entropy : Entropy) : Effect writes h { h with entropy }
  /-- A generator of facts is asked. -/
  | inquires (asked : List Nat) : Effect writes h { h with asked }
  /-- Callbacks are called. -/
  | calls (callbacks : List Callback) : Effect writes h (h.call callbacks)

/-- One effect after another. -/
abbrev Affected (writes : String → Prop) : Host → Host → Prop :=
  Relation.ReflTransGen (Effect writes)

variable {writes : String → Prop} {h h' : Host}

lemma store_setStore (h : Host) (url other : String) (s : Store) :
    Host.store { h with network := h.network.setStore url s } other
      = if url = other then s else h.store other := by
  rw [store, store, Network.store, Network.setStore, Keyed.get?_insert]
  split <;> rfl

namespace Affected

lemma mono {more : String → Prop} (hmore : ∀ path, writes path → more path)
    (hw : Affected writes h h') : Affected more h h' := by
  refine Relation.ReflTransGen.mono ?_ _ _ hw
  rintro _ _ (hedit | ⟨url, r⟩ | ⟨url, bus⟩ | entropy | asked | callbacks)
  · exact .edits (hedit.mono hmore)
  · exact .asks url r
  · exact .signals url bus
  · exact .draws entropy
  · exact .inquires asked
  · exact .calls callbacks

lemma files {files : Files} (hedits : Files.Edits writes h.files files) :
    Affected writes h { h with files } := by
  induction hedits with
  | refl => exact .refl
  | tail _ hedit ih => exact ih.tail (.edits (h := { h with files := _ }) hedit)

lemma store {α : Type} {url : String} {work : Store → α × Store} (r : Store.Request)
    (hwork : (work (h.store url)).2 = (h.store url).serve h.wallClock r) :
    Affected writes h (h.withStore url work).2 := by
  have heffect : Effect writes h _ := .asks url r
  rw [← hwork] at heffect
  exact .single heffect

lemma bus {α : Type} {url : String} {work : Store → α × Store}
    (hwork : ∃ bus, (work (h.store url)).2 = { h.store url with bus }) :
    Affected writes h (h.withStore url work).2 := by
  obtain ⟨bus, hbus⟩ := hwork
  have heffect : Effect writes h _ := .signals url bus
  rw [← hbus] at heffect
  exact .single heffect

lemma edits (hw : Affected writes h h') : Files.Edits writes h.files h'.files := by
  induction hw with
  | refl => exact .refl
  | tail _ heffect ih =>
    cases heffect with
    | edits hedit => exact ih.tail hedit
    | asks | signals | draws | inquires | calls => exact ih

/-- Work cancels nothing. -/
lemma cancelled_eq (hw : Affected writes h h') : h'.cancelled = h.cancelled := by
  induction hw with
  | refl => rfl
  | tail _ heffect ih =>
    rw [← ih]
    cases heffect <;> rfl

/-- Work makes no stream disappear. -/
lemma mem_streamNames (hw : Affected writes h h') {url name : String}
    (hname : name ∈ (h.store url).streamNames) : name ∈ (h'.store url).streamNames := by
  induction hw with
  | refl => exact hname
  | @tail before _ _ heffect ih =>
    cases heffect with
    | edits | draws | inquires | calls => exact ih
    | asks asked r =>
      rw [store_setStore]
      split
      · next hurl => exact Store.mem_streamNames_serve (hurl ▸ ih) _ r
      · exact ih
    | signals asked bus =>
      rw [store_setStore]
      split
      · next hurl => exact hurl ▸ ih
      · exact ih

end Affected

end Host

open Host (Affected)

variable {h : Host} {t : StopToken} {writes : String → Prop}

/-! ### Replication jobs -/

lemma Copying.Asked.affected {h' : Host} (ha : Copying.Asked h h') : Affected writes h h' := by
  cases ha with
  | nothing => exact .refl
  | request r hwork => exact .store r hwork

lemma Copying.edits_saveCursor (f : Files) (now : Nat) (path : String) (sequence : Nat) :
    Files.Edits (· = path) f (saveCursor f now path sequence).2 := by
  have hparent : Files.Edits (· = path) f _ := f.edits_createParent path
  unfold saveCursor
  split
  · next hrefused => rwa [hrefused] at hparent
  · next hdone =>
    rw [hdone] at hparent
    split
    · next hwrite => exact hparent.tail (Files.edit_write rfl hwrite)
    · exact hparent

lemma Copying.affected_step (r : Copying) (h : Host) (t : StopToken) (stage : Copying.Stage) :
    Affected (· = r.topology.cursorPath r.job) h (r.step h t stage).2 := by
  rcases hstep : r.step h t stage with ⟨turn, h'⟩
  by_cases hsaving : stage.isSaving
  · cases stage with
    | saving cursor rest =>
      have hedits := edits_saveCursor h.files h.wallClock (r.topology.cursorPath r.job) cursor
      rw [step] at hstep
      split at hstep <;> next hsave =>
        obtain ⟨-, rfl⟩ := Prod.mk.inj hstep
        rw [hsave] at hedits
        exact .files hedits
    | findingSource | openingSource | findingTarget | openingTarget | loading | fetching | copying
    | idle => contradiction
  · -- only a write of the cursor is no move
    rcases (move_of_step hstep fun h => absurd h hsaving).asked_or_saved with ha | ⟨hsaved, -⟩
    · exact ha.affected
    · exact absurd hsaved hsaving

/-- The cursor that a run writes, if it is one that copies. -/
def JobRun.written : JobRun → String → Prop
  | .copying r _, path => path = r.topology.cursorPath r.job
  | .course .., _ => False

lemma JobRun.affected_step (run : JobRun) (h : Host) (t : StopToken) :
    Affected run.written h (run.step h t).2 := by
  cases run with
  | copying r stage => exact r.affected_step h t stage
  | course c start => exact .refl

/-- The paths that a supervised job writes to. -/
def SupervisedJob.written : SupervisedJob → String → Prop
  | .pending .., _ => False
  | .running run, path => run.written path

lemma SupervisedJob.affected_step (stage : SupervisedJob) (h : Host) (t : StopToken)
    (s : Supervisor) (j : ReplicationJob) : Affected stage.written h (stage.step h t s j).2.1 := by
  cases stage with
  | pending e topology => exact .refl
  | running run =>
    have hrun := run.affected_step h t
    rw [step]
    split <;> next hstep => rwa [hstep] at hrun

/-! ### Brokers and data adapters -/

lemma BrokerManager.affected_runStep (m : BrokerManager) (h : Host) (t : StopToken)
    (stage : BrokerManager.RunStage) : Affected writes h (m.runStep h t stage).2.1 := by
  cases stage with
  | launching =>
    have hdirs : Files.Edits writes h.files _ :=
      h.files.edits_createDirectories m.config.storageDirectory
    simp only [runStep]
    split
    · exact .refl
    · split <;> next hcreate =>
        rw [hcreate] at hdirs
        exact .files hdirs
  | startingUp wake =>
    simp only [runStep]
    split <;> exact .refl
  | serving =>
    simp only [runStep]
    split <;> exact .refl
  | course start =>
    simp only [runStep]
    split
    · exact .refl
    · split <;> exact .refl

lemma StoreLink.affected_lookup (url : String) (accepting : Bool) (r : Resource) (h : Host) :
    Affected writes h ((StoreLink.toHost url accepting).lookup r h).2 :=
  .store (.streamInfo r.backingName) (Store.lookup_snd _ _ r)

lemma StoreLink.affected_create (url : String) (accepting : Bool) (r : Resource) (h : Host) :
    Affected writes h ((StoreLink.toHost url accepting).create r h).2 :=
  .store (.createStream r.backingSpec) (Store.create_snd _ r)

lemma Pass.affected_step (pass : Pass) (url : String) (accepting : Bool) (spec : TopologySpec)
    (h : Host) : Affected writes h (pass.step (.toHost url accepting) spec h).2 := by
  cases pass with
  | connecting =>
    simp only [step]
    split <;> next hconnect =>
      obtain ⟨-, rfl⟩ := Prod.mk.inj hconnect
      exact .refl
  | looking finished left =>
    cases left with
    | nil => exact .refl
    | cons r left =>
      have hlookup : Affected writes h _ := StoreLink.affected_lookup url accepting r h
      simp only [step]
      split <;> exact hlookup
  | creating finished r left =>
    have hcreate : Affected writes h _ := StoreLink.affected_create url accepting r h
    simp only [step]
    split <;> exact hcreate

lemma BrokerManager.affected_provisionStep (m : BrokerManager) (h : Host) (t : StopToken)
    (spec : TopologySpec) (stage : Provisioning) :
    Affected writes h (m.provisionStep h t spec stage).2.1 := by
  have hstage : Affected writes h
      (stage.step (m.link h.uptime) spec m.retry h.jitter h.uptime (h.isCancelled t) h).2 := by
    rcases stage with ⟨_ | _⟩ | ⟨attempt, delay, pass⟩
    · simp only [Provisioning.step]
      split <;> exact .refl
    · exact .refl
    · have hpass : Affected writes h _ := pass.affected_step m.url (m.isReady h.uptime) spec h
      simp only [Provisioning.step, link]
      split <;> next hstep => rwa [hstep] at hpass
  simp only [provisionStep]
  split <;> next hstep => rwa [hstep] at hstage

lemma RegistrationAdapter.affected_leave (a : RegistrationAdapter) (h : Host) :
    Affected writes h (a.leave h) :=
  .bus ⟨_, rfl⟩

lemma RegistrationAdapter.affected_receiveStep (a : RegistrationAdapter) (h : Host)
    (t : StopToken) : Affected writes h (a.receiveStep h t).2.1 := by
  have hreceive : ∀ d h', a.receive? h = some (d, h') → Affected writes h h' := by
    intro d h' hsome
    simp only [receive?] at hsome
    split at hsome
    · contradiction
    · obtain ⟨-, rfl⟩ := Prod.mk.inj (Option.some.inj hsome)
      exact .single (.signals a.busUrl _)
  unfold receiveStep
  split
  · exact a.affected_leave h
  · split
    · split
      · exact a.affected_leave h
      · split <;> exact .refl
    · split
      · exact .refl
      · next hsome => exact hreceive _ _ hsome
      · next hsome => split <;> exact hreceive _ _ hsome

lemma RegistrationAdapter.affected_workStep (a : RegistrationAdapter) (h : Host)
    (t : StopToken) : Affected writes h (a.workStep h t).2.1 := by
  unfold workStep
  split
  · exact .refl
  · split
    · exact .refl
    · next m rest _ =>
      have hpublish : Affected writes h (h.withStore a.storeUrl fun s =>
          s.publish h.wallClock (a.config.streamSubject m.sender) m.payload).2 :=
        .store (.publish (a.config.streamSubject m.sender) m.payload) rfl
      split <;> next hanswer => rwa [hanswer] at hpublish

/-! ### Agent servers and facts -/

lemma AgentServer.edits_writeStatus (a : AgentServer) (f : Files) (path : String) :
    Files.Edits (· = path) f (a.writeStatus f path).2 := by
  have hparent : Files.Edits (· = path) f _ := f.edits_createParent path
  unfold writeStatus
  split
  · next hrefused => rwa [hrefused] at hparent
  · next hdone =>
    rw [hdone] at hparent
    split
    · next hwrite => exact hparent.tail (Files.edit_writeKeyFile rfl hwrite)
    · exact hparent

/-- The path that an agent server writes to. -/
def AgentServer.written (a : AgentServer) (path : String) : Prop :=
  ∃ s, a.config.operational? = some s ∧ path = s.statusFile

lemma AgentServer.affected_firstPause (h : Host) (s : OperationalSettings) :
    Affected writes h (firstPause h s).2 := by
  unfold firstPause
  split
  · exact .single (.draws _)
  · exact .refl

lemma AgentServer.affected_publishRegistration (a : AgentServer) (h : Host) (target : String) :
    Affected writes h (a.publishRegistration h target) :=
  .bus ⟨((h.store localBrokerUrl).bus.publish _).2, rfl⟩

lemma AgentServer.affected_step (a : AgentServer) (h : Host) (t : StopToken)
    (stage : AgentServer.Stage) : Affected a.written h (a.step h t stage).2.1 := by
  cases stage with
  | starting =>
    simp only [step]
    split
    · exact .refl
    · split
      · exact .refl
      · next s hsettings =>
        have hedits : Files.Edits a.written h.files (a.writeStatus h.files s.statusFile).2 :=
          (a.edits_writeStatus h.files s.statusFile).mono fun _ hpath => ⟨s, hsettings, hpath⟩
        split <;> next hwrite =>
          rw [hwrite] at hedits
          exact .files hedits
  | ready =>
    simp only [step]
    split
    · exact .single (.calls _)
    · next s _ => exact .head (.calls _) (affected_firstPause _ s)
  | idle =>
    simp only [step]
    split <;> exact .refl
  | pausing wake =>
    simp only [step]
    split
    · exact .refl
    · split
      · exact .refl
      · exact .refl
      · exact a.affected_publishRegistration h _
  | course start =>
    simp only [step]
    split <;> exact .refl

lemma Facts.affected_generate (h : Host) (o : Options) (p : RuntimePaths) :
    Affected writes h (generate h o p).2 := by
  have hfurther : Affected writes h (further h o p).2 := by
    unfold further
    split
    · exact .refl
    · exact .single (.inquires _)
  have hnode : Affected writes h (nodeSection h o p).2 := by
    unfold nodeSection
    dsimp only
    split <;> next heq => rwa [heq] at hfurther
  unfold generate
  split
  next heq => rwa [heq] at hnode

lemma Facts.affected_save (h : Host) (o : Options) (p : RuntimePaths) :
    Affected (· = p.factsFile) h (Facts.save h o p).2 := by
  have hgenerate : Affected (· = p.factsFile) h _ := affected_generate h o p
  unfold save
  split
  next facts h' heq =>
    rw [heq] at hgenerate
    have hparent : Files.Edits (· = p.factsFile) h'.files _ :=
      h'.files.edits_createParent p.factsFile
    split
    · next hrefused =>
      rw [hrefused] at hparent
      exact hgenerate.trans (Affected.files hparent)
    · next hdone =>
      rw [hdone] at hparent
      split
      · next hwrite =>
        exact hgenerate.trans (Affected.files (hparent.tail (Files.edit_writeKeyFile rfl hwrite)))
      · exact hgenerate.trans (Affected.files hparent)

lemma Facts.Refresh.affected_step (stage : Facts.Refresh) (h : Host) (t : StopToken)
    (interval : Duration) (o : Options) (p : RuntimePaths) :
    Affected (· = p.factsFile) h (stage.step h t interval o p).2 := by
  cases stage with
  | starting =>
    simp only [step]
    split <;> exact .refl
  | waiting due =>
    have hsave := Facts.affected_save h o p
    simp only [step]
    split
    · exact .refl
    · exact .refl
    · exact hsave

/-! ### Tasks -/

namespace Pool

variable {p : Pool}

/-- The paths that a task writes to. -/
def written (p : Pool) : Activity → String → Prop
  | .copying run, path => run.written path
  | .supervised _ _ stage, path => stage.written path
  | .serving id _, path => ∃ a, p.agents[id]? = some a ∧ a.written path
  | .refreshing _ _ paths _, path => path = paths.factsFile
  | _, _ => False

/-- **A task works on the host**, or it cancels a token. -/
theorem affected_stepActivity (p : Pool) (t : StopToken) (a : Activity) :
    Affected (p.written a) p.host (p.stepActivity t a).2.host ∨
      ∃ target, (p.stepActivity t a).2 = p.cancel target := by
  cases a with
  | cancelling target wake =>
    simp only [stepActivity]
    split
    · exact .inr ⟨target, rfl⟩
    · exact .inl .refl
  | copying run => exact .inl (run.affected_step p.host t)
  | supervised id j stage =>
    left
    simp only [stepActivity]
    split
    · exact .refl
    · next s _ => exact stage.affected_step p.host t s j
  | broker id stage =>
    left
    simp only [stepActivity, stepBroker]
    split
    · exact .refl
    · next m _ => exact m.affected_runStep p.host t stage
  | provisioning id spec stage =>
    left
    simp only [stepActivity, stepBroker]
    split
    · exact .refl
    · next m _ => exact m.affected_provisionStep p.host t spec stage
  | receiving id =>
    left
    simp only [stepActivity, stepAdapter]
    split
    · exact .refl
    · next a _ => exact a.affected_receiveStep p.host t
  | working id =>
    left
    simp only [stepActivity, stepAdapter]
    split
    · exact .refl
    · next a _ => exact a.affected_workStep p.host t
  | serving id stage =>
    left
    simp only [stepActivity]
    split
    · exact .refl
    · next a ha => exact (a.affected_step p.host t stage).mono fun _ hpath => ⟨a, ha, hpath⟩
  | refreshing interval o paths stage => exact .inl (stage.affected_step p.host t interval o paths)

end Pool

end EdgeNode
