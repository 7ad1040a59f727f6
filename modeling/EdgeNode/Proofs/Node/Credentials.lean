import EdgeNode.Proofs.Node.Boot
import EdgeNode.Proofs.Node.Issued
import EdgeNode.Proofs.Pool.Cancellation
/-!
# Credentials are kept

About a dozen writers work beside the files that a node was issued: boots, the tasks that they
launch, and whoever calls one of the functions that make or save something.  `Credentials.Step` is a
step of any of them.  None writes to such a file once it is there
(`Credentials.issuedFiles_kept`): what a task or an agent server writes to was settled when it was
launched, and is elsewhere.  Only a reset, which is no such step, takes these files away.
-/

namespace EdgeNode

/-- A task writes its facts where none of these files is. -/
def Activity.WritesElsewhere : Activity → Prop
  | .refreshing _ _ paths _ => Path.LeadsElsewhere paths.factsFile
  | _ => True

lemma Activity.Continues.writesElsewhere {a a' : Activity} (h : a.Continues a')
    (ha : a.WritesElsewhere) : a'.WritesElsewhere := by
  cases h with
  | refreshing => exact ha
  | copying | supervised | broker | provisioning | receiving | working | serving => trivial

namespace Pool

/-- A task or an agent server that writes elsewhere, or anything else. -/
def Elsewhere : Addition → Prop
  | .task a => a.WritesElsewhere
  | .agent a => a.config.WritesElsewhere
  | _ => True

/-- A pool that has come from some files by edits elsewhere, and will go on so. -/
structure Spares (f : Files) (p : Pool) : Prop where
  edits : Files.Edits Path.LeadsElsewhere f p.host.files
  tasks : ∀ task ∈ p.tasks, task.activity.WritesElsewhere
  agents : ∀ a ∈ p.agents, a.config.WritesElsewhere

namespace Spares

variable {f : Files} {p p' : Pool} {task : Task}

lemma host (h : p.Spares f) {host : Host}
    (hedits : Files.Edits Path.LeadsElsewhere p.host.files host.files) :
    Spares f { p with host } :=
  ⟨h.edits.trans hedits, h.tasks, h.agents⟩

/-- Launching writes nothing. -/
lemma launched (h : p.Spares f) (hlaunched : Launched Elsewhere p p') : p'.Spares f where
  edits := by
    have haffected : Host.Affected Path.LeadsElsewhere p.host p'.host := hlaunched.affected
    exact h.edits.trans haffected.edits
  tasks := by
    intro task htask
    rcases hlaunched.mem_tasks htask with hold | hnew
    · exact h.tasks task hold
    · exact hnew
  agents := by
    intro a ha
    obtain ⟨built, hsame, hold | hnew⟩ := hlaunched.exists_agent ha
    · rw [hsame.config]
      exact h.agents built hold
    · rw [hsame.config]
      exact hnew

/-- A task writes elsewhere. -/
lemma leadsElsewhere (h : p.Spares f) (htask : task ∈ p.tasks) {path : String}
    (hpath : p.written task.activity path) : Path.LeadsElsewhere path := by
  have helsewhere := h.tasks task htask
  have hjob : ∀ run : JobRun, run.written path → Path.LeadsElsewhere path := by
    intro run hrun
    cases run with
    | copying r stage =>
      obtain rfl : path = r.topology.cursorPath r.job := hrun
      exact r.topology.leadsElsewhere_cursorPath r.job
    | course c start => contradiction
  generalize task.activity = activity at hpath helsewhere
  cases activity with
  | copying run => exact hjob run hpath
  | supervised id j stage =>
    cases stage with
    | pending e topology => contradiction
    | running run => exact hjob run hpath
  | serving id stage =>
    obtain ⟨a, ha, s, hs, rfl⟩ := hpath
    exact h.agents a (List.mem_of_getElem? ha) s hs
  | refreshing interval o paths stage =>
    obtain rfl : path = paths.factsFile := hpath
    exact helsewhere
  | cancelling | broker | provisioning | receiving | working => contradiction

/-- The turn of a task writes elsewhere, and leaves the task what it was. -/
lemma turn (h : p.Spares f) (htask : task ∈ p.tasks) : (p.turn task).Spares f where
  edits := by
    refine h.edits.trans ?_
    rcases (p.turned task).shared with hsame | ⟨hhost, -⟩
    · rw [hsame]
    · rw [hhost]
      rcases p.affected_stepActivity task.token task.activity with haffected | ⟨target, hcancel⟩
      · exact haffected.edits.mono fun _ => h.leadsElsewhere htask
      · rw [hcancel]
        exact .refl
  tasks := by
    intro new hnew
    rcases (p.turned task).mem_or_next hnew with hold | ⟨hnext, -⟩
    · exact h.tasks new hold
    · exact (stepActivity_next hnext).writesElsewhere (h.tasks task htask)
  agents := by
    intro a ha
    obtain ⟨old, hold, hsame⟩ := (p.turned task).exists_agent ha
    rw [hsame.config]
    exact h.agents old hold

end Spares

end Pool

/-! ### Boots -/

namespace Node

/-- What a boot has settled at a stage. -/
def Boot.prepared? : Boot → Option Prepared
  | .starting => none
  | .configured _ => none
  | .settled b => some b
  | .waiting b _ _ _ => some b
  | .ready b _ _ => some b
  | .leading b _ => some b

lemma paths_of_loadPlugins {n n' : Node} {result : Except Error Bool}
    (h : n.loadPlugins = (result, n')) : n'.paths = n.paths := by
  obtain rfl : n.loadPlugins.2 = n' := congrArg Prod.snd h
  rfl

/-- The agent server that a boot is going to start writes elsewhere. -/
def Boot.WritesElsewhere (stage : Boot) : Prop :=
  ∀ b, stage.prepared? = some b → b.server.WritesElsewhere

variable {n : Node} {c : Collaborators} {p p' : Pool} {f : Files} {stage stage' : Boot}
  {turn : BootTurn}

/-- What was settled stays settled. -/
lemma writesElsewhere_of_bootStep (hpaths : n.paths.Usual) (hstage : stage.WritesElsewhere)
    (h : n.bootStep c p stage = (.next stage', p')) : stage'.WritesElsewhere := by
  intro b hb
  cases turn_of_bootStep h with
  | read => contradiction
  | prepared hprepared =>
    obtain rfl := Option.some.inj hb
    exact writesElsewhere_of_prepare hpaths hprepared
  | follows | launched | waits | accepted | replicated => exact hstage b hb

lemma edits_of_readies (hpaths : n.paths.Usual) {h host : Host} (hreadies : n.Readies c h stage host) :
    Files.Edits Path.LeadsElsewhere h.files host.files := by
  cases hreadies with
  | nothing => exact .refl
  | @prepares config? _ _ hprepared =>
    have hedits := edits_prepare hpaths h c.target config?
    rwa [hprepared] at hedits
  | certifies hsettings => exact edits_of_prepareBroker hsettings

/-- A boot writes elsewhere, and so does what it launches. -/
lemma spares_of_bootStep (hp : p.Spares f) (hpaths : n.paths.Usual) (hstage : stage.WritesElsewhere)
    (h : n.bootStep c p stage = (turn, p')) : p'.Spares f := by
  obtain ⟨host, hreadies, hlaunched⟩ := launched_of_bootStep h
  refine (hp.host (edits_of_readies hpaths hreadies)).launched (hlaunched.mono fun x hadds => ?_)
  cases hadds with
  | refreshing => exact hpaths.factsFile
  | @agent b _ a hconfig =>
    rw [Pool.Elsewhere, hconfig]
    exact hstage b rfl
  | broker | runsBroker | provisioning | adapter | receiving | working | supervisor | supervised
  | serving => trivial

end Node

/-! ### Whoever works among the files -/

namespace Credentials

/-- A boot that is under way. -/
structure Attempt where
  /-- The node. -/
  node : Node
  /-- What it works with. -/
  collaborators : Collaborators
  /-- Where booting stands. -/
  stage : Node.Boot

/-- A pool and the boots that are under way in it. -/
structure Situation where
  /-- The pool. -/
  pool : Pool
  /-- The boots. -/
  boots : List Attempt

namespace Situation

/-- A host on which nothing has begun. -/
def begin (host : Host) : Situation where
  pool := { host }
  boots := []

/-- The files. -/
def files (s : Situation) : Files :=
  s.pool.host.files

/-- The boots that are under way when one of them has taken a turn. -/
def bootsAfter (s : Situation) (i : Nat) (a : Attempt) : Node.BootTurn → List Attempt
  | .next stage => s.boots.set i { a with stage }
  | .wait _ => s.boots
  | .done _ => s.boots.eraseIdx i

end Situation

/-- A call of a function that makes or saves something among the files of a node. -/
inductive Call (h : Host) : Host → Prop
  | ensureSigningSeed (path : String) : Call h
    { h with
      files := (h.files.ensureSigningSeed h.entropy path).2.1
      entropy := (h.files.ensureSigningSeed h.entropy path).2.2 }
  | ensureUserSeed (path : String) : Call h
    { h with
      files := (h.files.ensureUserSeed h.entropy path).2.1
      entropy := (h.files.ensureUserSeed h.entropy path).2.2 }
  | materialize (paths : RuntimePaths) (o : Options) (name : String) (mode : Mode)
    (c : Option Config) : Call h
    { h with
      files := (ServerConfig.materialize h.files h.entropy paths o name mode c).2.1
      entropy := (ServerConfig.materialize h.files h.entropy paths o name mode c).2.2 }
  | applyPostActions {paths : RuntimePaths} (hpaths : paths.Usual) (target : ProvisioningTarget)
    (server : ServerConfig) (c : Option Config) : Call h
    { h with files := (applyPostActions h.files target server paths c).2 }
  | saveCredentials {paths : RuntimePaths} (hpaths : paths.Usual) (c : Config) : Call h
    { h with files := (saveCredentials h.files c paths).2 }
  | saveFacts {n : Node} (hpaths : n.paths.Usual) : Call h (n.saveFacts h).2.2

/-- A step of anybody. -/
inductive Step : Situation → Situation → Prop
  /-- A boot begins. -/
  | begins {s : Situation} {n : Node} (hpaths : n.paths.Usual) (c : Collaborators) :
    Step s { s with boots := s.boots ++ [⟨n, c, .starting⟩] }
  /-- A boot takes a turn. -/
  | boots {s : Situation} {i : Nat} {a : Attempt} {turn : Node.BootTurn} {p : Pool}
    (ha : s.boots[i]? = some a)
    (h : a.node.bootStep a.collaborators s.pool a.stage = (turn, p)) :
    Step s ⟨p, s.bootsAfter i a turn⟩
  /-- A task takes a turn. -/
  | turn {s : Situation} {task : Task} (htask : task ∈ s.pool.tasks) :
    Step s { s with pool := s.pool.turn task }
  /-- Others launch what they like, but for tasks and agent servers that write to these files. -/
  | launches {s : Situation} {p : Pool} (h : Pool.Launched Pool.Elsewhere s.pool p) :
    Step s { s with pool := p }
  /-- Somebody calls a function. -/
  | calls {s : Situation} {host : Host} (h : Call s.pool.host host) :
    Step s { s with pool := { s.pool with host } }
  /-- Something else happens to the host. -/
  | elsewhere {s : Situation} {host : Host} (hfiles : host.files = s.files) :
    Step s { s with pool := { s.pool with host } }

/-- Steps, one after another. -/
abbrev Course : Situation → Situation → Prop :=
  Relation.ReflTransGen Step

variable {s s' : Situation} {f : Files} {h h' : Host}

lemma Call.edits (hcall : Call h h') : Files.Edits Path.LeadsElsewhere h.files h'.files := by
  cases hcall with
  | ensureSigningSeed path => exact Files.edits_ensureSigningSeed ..
  | ensureUserSeed path => exact Files.edits_ensureUserSeed ..
  | materialize paths o name mode c => exact edits_materialize ..
  | applyPostActions hpaths target server c =>
    exact edits_applyPostActions hpaths.credentialsFile ..
  | saveCredentials hpaths c => exact edits_saveCredentials hpaths.credentialsFile ..
  | @saveFacts n hpaths =>
    unfold Node.saveFacts
    split
    · exact .refl
    · next loaded n' hplugins =>
      refine (Facts.affected_save h n'.options n'.paths).edits.mono ?_
      rintro path rfl
      rw [Node.paths_of_loadPlugins hplugins]
      exact hpaths.factsFile

/-- What everybody keeps: these files have not been written, and nobody is going to. -/
structure Sound (f : Files) (s : Situation) : Prop where
  pool : s.pool.Spares f
  boots : ∀ a ∈ s.boots, a.node.paths.Usual ∧ a.stage.WritesElsewhere

lemma Sound.begin (host : Host) : Sound host.files (.begin host) :=
  ⟨⟨.refl, by simp [Situation.begin], by simp [Situation.begin]⟩, by simp [Situation.begin]⟩

theorem Sound.step (hs : Sound f s) (hstep : Step s s') : Sound f s' := by
  cases hstep with
  | begins hpaths c =>
    refine ⟨hs.pool, fun a ha => ?_⟩
    rcases List.mem_append.1 ha with hold | hnew
    · exact hs.boots a hold
    · obtain rfl := List.mem_singleton.1 hnew
      exact ⟨hpaths, fun b hb => by contradiction⟩
  | @boots i a turn p ha hturn =>
    obtain ⟨hpaths, hstage⟩ := hs.boots a (List.mem_of_getElem? ha)
    refine ⟨Node.spares_of_bootStep hs.pool hpaths hstage hturn, ?_⟩
    cases turn with
    | next stage' =>
      intro b hb
      rcases List.mem_or_eq_of_mem_set hb with hold | rfl
      · exact hs.boots b hold
      · exact ⟨hpaths, Node.writesElsewhere_of_bootStep hpaths hstage hturn⟩
    | wait wake => exact hs.boots
    | done result => exact fun b hb => hs.boots b (List.mem_of_mem_eraseIdx hb)
  | turn htask => exact ⟨hs.pool.turn htask, hs.boots⟩
  | launches hlaunched => exact ⟨hs.pool.launched hlaunched, hs.boots⟩
  | calls hcall => exact ⟨hs.pool.host hcall.edits, hs.boots⟩
  | @elsewhere host hfiles =>
    have hedits : Files.Edits Path.LeadsElsewhere s.pool.host.files host.files := by
      rw [hfiles]
      exact .refl
    exact ⟨hs.pool.host hedits, hs.boots⟩

theorem Sound.course (hs : Sound f s) (hcourse : Course s s') : Sound f s' := by
  induction hcourse with
  | refl => exact hs
  | tail _ hstep ih => exact ih.step hstep

/-! ### A boot as a whole -/

/-- The situation in which one more boot is under way. -/
def Situation.underWay (boots : List Attempt) (n : Node) (c : Collaborators)
    (w : Node.Boot × Pool) : Situation where
  pool := w.2
  boots := boots ++ [⟨n, c, w.1⟩]

section Boot

variable {boots : List Attempt} {n : Node} {c : Collaborators} {p p' : Pool} {stage : Node.Boot}
  {turn : Node.BootTurn}

lemma step_underWay (h : n.bootStep c p stage = (turn, p')) :
    Step (.underWay boots n c (stage, p))
      ⟨p', (Situation.underWay boots n c (stage, p)).bootsAfter boots.length ⟨n, c, stage⟩ turn⟩ :=
  .boots (by simp [Situation.underWay]) h

lemma step_next {stage' : Node.Boot} (h : n.bootStep c p stage = (.next stage', p')) :
    Step (.underWay boots n c (stage, p)) (.underWay boots n c (stage', p')) := by
  have hstep : Step (.underWay boots n c (stage, p)) _ := step_underWay h
  simpa [Situation.bootsAfter, Situation.underWay] using hstep

lemma step_done {result : Except Error Node.Booted}
    (h : n.bootStep c p stage = (.done result, p')) :
    Step (.underWay boots n c (stage, p)) ⟨p', boots⟩ := by
  have hstep : Step (.underWay boots n c (stage, p)) _ := step_underWay h
  simpa [Situation.bootsAfter, Situation.underWay, List.eraseIdx_append_of_length_le] using hstep

/-- A boot from its beginning to its end is a course of these steps. -/
theorem course_boot {n' : Node} {result : Except Error Node.Booted} (hpaths : n.paths.Usual)
    (h : n.boot c s.pool = (some result, n', p)) : Course s ⟨p, s.boots⟩ := by
  unfold Node.boot at h
  split at h
  · obtain ⟨-, hsame⟩ := Prod.mk.inj h
    obtain ⟨-, rfl⟩ := Prod.mk.inj hsame
    exact .refl
  · next loaded n₁ hplugins =>
    have hpaths₁ : n₁.paths.Usual := by
      rw [Node.paths_of_loadPlugins hplugins]
      exact hpaths
    have hrun : s.pool.run (n₁.bootStep c) .starting = (some result, p) := by
      obtain ⟨hresult, hsame⟩ := Prod.mk.inj h
      exact Prod.ext hresult (Prod.mk.inj hsame).2
    have hends : ∃ stage q q', Relation.ReflTransGen
        (fun w w' => Step (.underWay s.boots n₁ c w) (.underWay s.boots n₁ c w'))
        (.starting, s.pool) (stage, q) ∧
        n₁.bootStep c q stage = (.done result, q') ∧ p = q'.tick :=
      Pool.course_of_runUpTo step_next (fun hwait => step_underWay hwait) (fun htask => .turn htask)
        (fun _ _ => .elsewhere rfl) (fun _ _ _ => .elsewhere rfl) hrun
    obtain ⟨stage, q, q', hcourse, hdone, rfl⟩ := hends
    have hbegins : Step s (.underWay s.boots n₁ c (.starting, s.pool)) := .begins hpaths₁ c
    have hboots : Course (.underWay s.boots n₁ c (.starting, s.pool))
        (.underWay s.boots n₁ c (stage, q)) :=
      Relation.ReflTransGen.lift (Situation.underWay s.boots n₁ c) (fun _ _ hstep => hstep) _ _
        hcourse
    exact .head hbegins (hboots.tail (step_done hdone) |>.tail (.elsewhere rfl))

end Boot

/-! ### Keys -/

/-- A content that, trimmed, is a signing seed, and its public key. -/
def SigningSeed (content : Bytes) (key : String) : Prop :=
  ∃ text seed, Bytes.text? content = some text ∧
    Encoding.Hex.decode (Text.trimmed text) = .ok seed ∧ seed.length = 32 ∧
    key = Encoding.Hex.encode (Crypto.Ed25519.publicKey seed)

/-- A content that, trimmed, is the seed of a broker user, and its public key. -/
def UserSeed (content : Bytes) (key : String) : Prop :=
  ∃ text seed, Bytes.text? content = some text ∧
    Nkey.Seed.read (Text.trimmed text) = .ok seed ∧ key = seed.publicKey

variable {path key : String} {content : Bytes}

lemma has_of_read (hread : f.read path = .ok content) : f.has path = true := by
  obtain ⟨l, mode, hlocate, hget⟩ := Files.read_eq_ok.1 hread
  rw [Files.has, Files.stat_eq_ok.2 ⟨hlocate, hget⟩]
  rfl

lemma readTrimmed_eq {text : String} (hread : f.read path = .ok content)
    (htext : Bytes.text? content = some text) :
    f.readTrimmed path = .ok (Text.trimmed text) := by
  rw [Files.readTrimmed, Files.readText, hread]
  simp only [htext]

lemma signingPublicKey_of_seed (hread : f.read path = .ok content)
    (hseed : SigningSeed content key) : f.signingPublicKey path = .ok key := by
  obtain ⟨text, seed, htext, hdecode, hlength, rfl⟩ := hseed
  rw [Files.signingPublicKey, Files.readSeed, readTrimmed_eq hread htext]
  simp only [hdecode, hlength, if_true, Except.map]

lemma userPublicKey_of_seed (hread : f.read path = .ok content) (hseed : UserSeed content key) :
    f.userPublicKey path = .ok key := by
  obtain ⟨text, seed, htext, hdecode, rfl⟩ := hseed
  rw [Files.userPublicKey, Files.readUserSeed, readTrimmed_eq hread htext]
  simp only [hdecode]

/-- Whoever asks for the key of a file that is there is answered as one who only reads it. -/
lemma ensureSigningSeed_of_has (hhas : f.has path = true) (e : Entropy) :
    f.ensureSigningSeed e path = ((f.signingPublicKey path).mapError KeyError.toError, f, e) := by
  rw [Files.ensureSigningSeed, if_pos hhas]

lemma ensureUserSeed_of_has (hhas : f.has path = true) (e : Entropy) :
    f.ensureUserSeed e path = ((f.userPublicKey path).mapError KeyError.toError, f, e) := by
  rw [Files.ensureUserSeed, if_pos hhas]

/-- **Credentials are kept.**  However boots, the tasks that they launch, calls and others come
between each other: a file that a node was issued, or that holds a key that is to last, keeps what
it holds once it is there, whatever that is.  A boot as a whole, whether it succeeds or fails, is a
part of such a course.  At every moment of it, whoever asks for the key of a file that is there
writes nothing, and of a valid seed everybody is told the same key, that of its trimmed content. -/
theorem issuedFiles_kept {host : Host} (hstart : Course (.begin host) s) (hcourse : Course s s') :
    (∀ paths : RuntimePaths, paths.Usual → ∀ path ∈ paths.issuedFiles, ∀ content,
      s.files.read path = .ok content → s'.files.read path = .ok content) ∧
    (∀ (n : Node) (c : Collaborators) result n' p, n.paths.Usual →
      n.boot c s'.pool = (some result, n', p) → Course s' ⟨p, s'.boots⟩) ∧
    (∀ path e, s'.files.has path = true →
      (s'.files.ensureSigningSeed e path).2 = (s'.files, e) ∧
      (s'.files.ensureUserSeed e path).2 = (s'.files, e)) ∧
    (∀ path content, s'.files.read path = .ok content →
      (∀ key, SigningSeed content key → s'.files.signingPublicKey path = .ok key ∧
        ∀ e, (s'.files.ensureSigningSeed e path).1 = .ok key) ∧
      (∀ key, UserSeed content key → s'.files.userPublicKey path = .ok key ∧
        ∀ e, (s'.files.ensureUserSeed e path).1 = .ok key)) := by
  have hsound : Sound host.files s := (Sound.begin host).course hstart
  -- from now on what was there before does not matter
  have hnow : Sound s.files s := ⟨⟨.refl, hsound.pool.tasks, hsound.pool.agents⟩, hsound.boots⟩
  have hedits : Files.Edits Path.LeadsElsewhere s.files s'.files := (hnow.course hcourse).pool.edits
  refine ⟨?_, fun n c result n' p => course_boot, ?_, ?_⟩
  · intro paths hpaths path hpath content hread
    obtain ⟨name, hname, hends⟩ := RuntimePaths.endsIn_of_mem_issuedFiles hpaths hpath
    refine hedits.read hends ?_ hread
    rintro other ⟨name', hends', hother⟩
    exact ⟨name', hends', fun hsame => hother (hsame ▸ hname)⟩
  · intro path e hhas
    rw [ensureSigningSeed_of_has hhas, ensureUserSeed_of_has hhas]
    exact ⟨rfl, rfl⟩
  · intro path content hread
    have hhas := has_of_read hread
    constructor
    · intro key hseed
      have hkey := signingPublicKey_of_seed hread hseed
      refine ⟨hkey, fun e => ?_⟩
      rw [ensureSigningSeed_of_has hhas, hkey]
      rfl
    · intro key hseed
      have hkey := userPublicKey_of_seed hread hseed
      refine ⟨hkey, fun e => ?_⟩
      rw [ensureUserSeed_of_has hhas, hkey]
      rfl

/-- A signing seed of zeros, with blanks around it. -/
def zeroSeed : Bytes :=
  Bytes.ofText (" 0000000000000000000000000000000000000000000000000000000000000000\n")

/-- The host of a leader that has this seed, and an empty identity token. -/
def seededHost : Host :=
  { Node.leaderPool.host with
    files := Node.leaderPool.host.files.put ["etc", "server.seed"] (.file zeroSeed 0o600) }

/-- The leader boots, its seed and its token stay as they are, and its key is that of the zeros. -/
theorem issuedFiles_kept_seededHost : ∃ booted n p,
    Node.leader.boot Node.willing { host := seededHost } = (some (.ok booted), n, p) ∧
    p.host.files.read "/etc/server.seed" = .ok zeroSeed ∧
    p.host.files.signingPublicKey "/etc/server.seed"
      = .ok (Encoding.Hex.encode (Crypto.Ed25519.publicKey (List.replicate 32 0))) ∧
    p.host.files.read "/etc/server.jwt" = .ok [] := by
  have hpaths : Node.leader.paths.Usual := ⟨_, _, rfl⟩
  have hisOk : (Node.leader.boot Node.willing { host := seededHost }).1.any Except.isOk = true := by
    decide +kernel
  obtain ⟨-, hcourses, -⟩ := issuedFiles_kept (s := .begin seededHost) .refl .refl
  -- what follows must not run the boot once more
  rcases hboot : Node.leader.boot Node.willing { host := seededHost } with ⟨result, n, p⟩
  rw [hboot] at hisOk
  rcases result with _ | e | booted
  · contradiction
  · contradiction
  have hcourse := hcourses _ _ _ _ _ hpaths hboot
  obtain ⟨hkept, -, -, hkeys⟩ := issuedFiles_kept (s := .begin seededHost) .refl hcourse
  have hseed := hkept _ hpaths "/etc/server.seed" (List.mem_of_getElem? (i := 0) rfl) zeroSeed rfl
  have htoken := hkept _ hpaths "/etc/server.jwt" (List.mem_of_getElem? (i := 1) rfl) [] rfl
  have hzeros : SigningSeed zeroSeed _ := ⟨_, List.replicate 32 0, rfl, rfl, rfl, rfl⟩
  exact ⟨booted, n, p, rfl, hseed, ((hkeys _ _ hseed).1 _ hzeros).1, htoken⟩

end Credentials

end EdgeNode
