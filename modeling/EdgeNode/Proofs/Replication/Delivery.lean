import EdgeNode.Proofs.Replication.Runs
/-!
# What a job delivers

Over all its runs a durable job copies every message once and in order, and leaves none out that its
source still holds.  What its cursor says is decisive: a message numbered up to it is never copied,
also where the source is a new one that knows nothing of the cursor.
-/

namespace EdgeNode.Copying

open Relation (ReflTransGen)

variable {r : Copying} {c₀ : Nat} {w w' : Situation}

/-- The messages that the source holds. -/
def sourceHeld (r : Copying) (h : Host) : List StoredMessage :=
  (r.source h).held r.job.sourceStream

/-- The number of the newest message that the source ever accepted. -/
def sourceLast (r : Copying) (h : Host) : Nat :=
  (r.source h).lastNumber r.job.sourceStream

/-- The run that is going on finds nothing to copy. -/
def FindsNothing (r : Copying) (w : Situation) (h' : Host) : Prop :=
  ∃ cursor wake, w.stage? = some (.fetching cursor) ∧
    r.step w.host w.token (.fetching cursor) = (.next (.idle cursor wake), h')

lemma findsNothing_of_step {cursor wake : Nat} (hstage : w.stage? = some (.fetching cursor))
    (hturn : (r.step w.host w.token (.fetching cursor)).1 = .next (.idle cursor wake)) :
    r.FindsNothing w (r.step w.host w.token (.fetching cursor)).2 :=
  ⟨cursor, wake, hstage, Prod.ext hturn rfl⟩

/-- Everything that is held has been copied where a run that keeps track finds nothing. -/
lemma Tracks.carried {h' : Host} (htracks : Tracks r c₀ w.host w.stage? w.log)
    (hnothing : r.FindsNothing w h') {m : StoredMessage} (hm : m ∈ r.sourceHeld h')
    (hbehind : c₀ < m.sequence) : ∃ c ∈ w.log, c.Carries r.job m := by
  obtain ⟨cursor, wake, hstage, hstep⟩ := hnothing
  have hfetch := fetch_of_idle hstep
  have hposition : cursor = lastCopied c₀ w.log :=
    (htracks.stands _ hstage).position cursor rfl
  have hmove : r.Move w.host (.fetching cursor) (some (.idle cursor wake)) h' [] :=
    .foundNothing hfetch
  -- looking for messages may drop some, which leaves fewer to account for
  have hafter := htracks.around hmove.around
  exact hafter.caughtUp.carried m hm hbehind (hposition ▸ le_of_fetch_nil hfetch hm)

/-! ### Many runs -/

/-- A job that copies submissions. -/
def submitting : Copying where
  job :=
    { name := "submit"
      sourceStream := "SUBMIT"
      targetStream := "EVENTS"
      sourceUrl := "local"
      targetUrl := "backend"
      subjectRule := some ⟨"in.", "out."⟩ }
  topology :=
    { name := "site", stateDirectory := "/state", credentials := ⟨"", "", ""⟩, jobs := [] }

/-- A host with both streams of the job and some submissions. -/
def submittingHost (files : Files) (submissions : List (Nat × Store.Request)) : Host where
  files
  network :=
    [("backend",
      Store.serveAll {} [(1, .createStream { name := "EVENTS", subjects := ["out.>"] })]),
     ("local", Store.serveAll {} submissions)]
  wallClock := 4

/-- A new stream and nothing else. -/
def noSubmissions : List (Nat × Store.Request) :=
  [(1, .createStream { name := "SUBMIT", subjects := ["in.>"] })]

/-- Two submissions to a new stream. -/
def twoSubmissions : List (Nat × Store.Request) :=
  noSubmissions ++ [(2, .publish "in.a" [1]), (3, .publish "in.b" [2])]

/-- A first run copies both. -/
def firstRun : Situation :=
  submitting.advanceBy 12
    ⟨submittingHost {} twoSubmissions, 0, some .findingSource, []⟩

/-- It is cancelled, and meanwhile there is a third submission. -/
def cancelled : Host :=
  (firstRun.host.withStore "local" fun s => s.publish 5 "in.c" [3]).2.cancel 0

/-- It ends. -/
def stopped : Situation :=
  submitting.advance ⟨cancelled, 0, firstRun.stage?, firstRun.log⟩

/-- A run keeps track once it has read its cursor. -/
lemma tracks_runStep (hstep : r.RunStep r.Around w w')
    (hloaded : ∀ stage ∈ w.stage?, stage.cursor?.isSome)
    (htracks : Tracks r c₀ w.host w.stage? w.log) :
    Tracks r c₀ w'.host w'.stage? w'.log ∧ ∀ stage ∈ w'.stage?, stage.cursor?.isSome := by
  cases hstep with
  | own hstep hsaved =>
    have hmove := move_of_step hstep hsaved
    have hbehind := hloaded _ rfl
    refine ⟨htracks.move hmove fun h => ?_, hmove.isSome_cursor? hbehind⟩
    -- where the cursor is known it is not read again
    rw [h] at hbehind
    contradiction
  | others hothers => exact ⟨htracks.around hothers, hloaded⟩

/-- A run that has read its cursor keeps track of what it copies behind it. -/
lemma tracks_runSteps {h₁ : Host} {t : StopToken} (hsound : (r.source h₁).Sound)
    (hrun : ReflTransGen (r.RunStep r.Around) ⟨h₁, t, some (.fetching c₀), []⟩ w) :
    Tracks r c₀ w.host w.stage? w.log := by
  have hboth : Tracks r c₀ w.host w.stage? w.log ∧ ∀ stage ∈ w.stage?, stage.cursor?.isSome := by
    induction hrun with
    | refl =>
      have hstart : Tracks r c₀ h₁ none [] := ⟨hsound, .nil _ _ _, fun _ h => by contradiction⟩
      refine ⟨hstart.arrived (.of_batch_eq_nil (fun cursor hcursor => ?_) rfl rfl), ?_⟩
      · exact (Option.some.inj hcursor).symm
      · intro stage hstage
        obtain rfl := Option.some.inj hstage
        rfl
    | tail _ hstep ih => exact tracks_runStep hstep ih.2 ih.1
  exact hboth.1

/-- A source that is sound stays sound, whatever happens during a run. -/
lemma sound_runSteps (hsound : (r.source w.host).Sound)
    (hrun : ReflTransGen (r.RunStep r.Around) w w') : (r.source w'.host).Sound := by
  induction hrun with
  | refl => exact hsound
  | tail _ hstep ih =>
    cases hstep with
    | own hstep hsaved => exact (move_of_step hstep hsaved).around.sound ih
    | others hothers => exact hothers.sound ih

/-- A run that began on the host `h₀` read its cursor when the host was `h₁`, and it has come to the
situation `w` since. -/
structure ReadCursor (r : Copying) (t : StopToken) (h₀ h₁ : Host) (w : Situation) : Prop where
  opened : ReflTransGen (r.RunStep r.Around) ⟨h₀, t, some .findingSource, []⟩
    ⟨h₁, t, some .loading, []⟩
  since : ReflTransGen (r.RunStep r.Around)
    ⟨h₁, t, some (.fetching (loadCursor h₁.files r.cursorFile)), []⟩ w

lemma step_loading (hdurable : r.job.ephemeral = false) (h : Host) (t : StopToken) :
    r.step h t .loading = (.next (.fetching (loadCursor h.files r.cursorFile)), h) := by
  rw [step, hdurable]
  rfl

lemma ReadCursor.runSteps {t : StopToken} {h₀ h₁ : Host} (hread : r.ReadCursor t h₀ h₁ w)
    (hdurable : r.job.ephemeral = false) :
    ReflTransGen (r.RunStep r.Around) ⟨h₀, t, some .findingSource, []⟩ w := by
  have hloaded : r.RunStep r.Around ⟨h₁, t, some .loading, []⟩
      ⟨h₁, t, some (.fetching (loadCursor h₁.files r.cursorFile)), []⟩ :=
    .own (step_loading hdurable h₁ t) fun hsaving => by contradiction
  exact hread.opened.trans (.head hloaded hread.since)

/-- A run has copied nothing and does not know from where to copy, or it has read its cursor. -/
lemma readCursor_runSteps {h₀ : Host} {t : StopToken} (hdurable : r.job.ephemeral = false)
    (hrun : ReflTransGen (r.RunStep r.Around) ⟨h₀, t, some .findingSource, []⟩ w) :
    (w.token = t ∧ w.log = [] ∧ ∀ stage ∈ w.stage?, stage.cursor? = none) ∨
      ∃ h₁, r.ReadCursor t h₀ h₁ w := by
  induction hrun with
  | refl => exact .inl ⟨rfl, rfl, by simp [Stage.cursor?]⟩
  | @tail w w' hbefore hstep ih =>
    obtain ⟨htoken, hlog, hnone⟩ | ⟨h₁, hread⟩ := ih
    · obtain ⟨host, token, stage?, log⟩ := w
      obtain ⟨rfl, rfl⟩ : token = t ∧ log = [] := ⟨htoken, hlog⟩
      cases hstep with
      | @own _ _ _ stage _ _ hstep hsaved =>
        have hmove := move_of_step hstep hsaved
        -- no cursor is known, so that the step is one of opening or the one that reads it
        have hnone := hnone stage rfl
        generalize stageAfter stage _ = after at hmove ⊢
        generalize r.copied host stage = new at hmove ⊢
        cases hmove with
        | opening _ _ hafter _ =>
          exact .inl ⟨rfl, rfl, fun stage' hstage' => Option.some.inj hstage' ▸ hafter⟩
        | ended _ _ => exact .inl ⟨rfl, rfl, fun _ hstage' => by contradiction⟩
        | loaded =>
          refine .inr ⟨_, hbefore, ?_⟩
          rw [startCursor, hdurable]
          exact .refl
        | foundNothing | found | turned | copied | saved | rested => contradiction
      | others _ => exact .inl ⟨rfl, rfl, hnone⟩
    · exact .inr ⟨h₁, hread.opened, hread.since.tail hstep⟩

/-- **The cursor that a run reads decides what it copies.**  Where the run finds nothing to copy, it
has read its cursor, and a message that the source holds was copied just when it is numbered above
that cursor.  So what was published since the run began was copied if the source knew the cursor by
then; otherwise the cursor hides whatever the source numbers up to it. -/
theorem copied_iff_behind_cursor {h₀ h' : Host} {t : StopToken}
    {past : List (Nat × Store.Request)} (hdurable : r.job.ephemeral = false)
    (hsource : (r.source h₀).streams = (Store.serveAll {} past).streams)
    (hrun : ReflTransGen (r.RunStep r.Around) ⟨h₀, t, some .findingSource, []⟩ w)
    (hnothing : r.FindsNothing w h') :
    (∃ h₁, r.ReadCursor t h₀ h₁ w) ∧ ∀ h₁, r.ReadCursor t h₀ h₁ w →
      (∀ m ∈ r.sourceHeld h', (∃ c ∈ w.log, c.Carries r.job m) ↔
        loadCursor h₁.files r.cursorFile < m.sequence) ∧
      (loadCursor h₁.files r.cursorFile ≤ r.sourceLast h₀ →
        ∀ m ∈ r.sourceHeld h', r.sourceLast h₀ < m.sequence →
          ∃ c ∈ w.log, c.Carries r.job m) := by
  have hsound : (r.source h₀).Sound := (Store.Sound.empty.serveAll past).congr hsource
  constructor
  · rcases readCursor_runSteps hdurable hrun with ⟨-, -, hnone⟩ | hread
    · obtain ⟨cursor, -, hstage, -⟩ := hnothing
      exact absurd (hnone _ hstage) (by simp [Stage.cursor?])
    · exact hread
  · intro h₁ hread
    have htracks := tracks_runSteps (sound_runSteps hsound hread.opened) hread.since
    have hcopied : ∀ m ∈ r.sourceHeld h', (∃ c ∈ w.log, c.Carries r.job m) ↔
        loadCursor h₁.files r.cursorFile < m.sequence := by
      intro m hm
      constructor
      · rintro ⟨c, hc, hcarries⟩
        exact hcarries.1 ▸ htracks.caughtUp.behind c hc
      · exact htracks.carried hnothing hm
    exact ⟨hcopied, fun hknown m hm hnew => (hcopied m hm).2 (Nat.lt_of_le_of_lt hknown hnew)⟩

/-- A state directory that was left by an earlier process, which had copied ten messages. -/
def leftFiles : Files where
  entries :=
    [(["state", "site", "submit.json"], .file (Cursor.encode 10 0) 0o644),
     (["state", "site"], .directory 0o755), (["state"], .directory 0o755)]

/-- A host whose stores are new. -/
def newHost : Host :=
  submittingHost leftFiles noSubmissions

/-- A run has opened its streams. -/
def opened : Situation :=
  submitting.advanceBy 4 ⟨newHost, 0, some .findingSource, []⟩

/-- It has read its cursor, and then there is a submission. -/
def submitted : Host :=
  (opened.host.withStore "local" fun s => s.publish 5 "in.a" [1]).2

/-- The submission is the first message of the source, and the run passes it over. -/
theorem copied_iff_behind_cursor_left :
    ∃ m ∈ submitting.sourceHeld (submitting.step submitted 0 (.fetching 10)).2,
      submitting.sourceLast newHost < m.sequence ∧
        submitting.FindsNothing ⟨submitted, 0, some (.fetching 10), []⟩
          (submitting.step submitted 0 (.fetching 10)).2 ∧
        ¬ ∃ c ∈ ([] : List Copied), c.Carries submitting.job m := by
  have hsource : (submitting.source newHost).streams
      = (Store.serveAll {} noSubmissions).streams := by decide +kernel
  have hstage : opened.stage? = some .loading := by decide +kernel
  have hlog : opened.log = [] := by decide +kernel
  have htoken : opened.token = 0 := by decide +kernel
  have hopened : ReflTransGen (submitting.RunStep submitting.Around)
      ⟨newHost, 0, some .findingSource, []⟩ ⟨opened.host, 0, some .loading, []⟩ := by
    have hsteps : ReflTransGen (submitting.RunStep submitting.Around)
        ⟨newHost, 0, some .findingSource, []⟩
        ⟨opened.host, opened.token, opened.stage?, opened.log⟩ :=
      runSteps_advanceBy 4 (by decide +kernel)
    rwa [hstage, hlog, htoken] at hsteps
  have hcursor : loadCursor opened.host.files submitting.cursorFile = 10 := by decide +kernel
  have hothers : submitting.Around opened.host submitted :=
    ⟨[(5, .publish "in.a" [1])], by decide +kernel⟩
  have hread : submitting.ReadCursor 0 newHost opened.host
      ⟨submitted, 0, some (.fetching 10), []⟩ := by
    refine ⟨hopened, ?_⟩
    rw [hcursor]
    exact .single (.others hothers)
  have hturn : (submitting.step submitted 0 (.fetching 10)).1 = .next (.idle 10 250) := by
    decide +kernel
  have hheld : ⟨1, "in.a", [1], 5⟩ ∈ submitting.sourceHeld
      (submitting.step submitted 0 (.fetching 10)).2 := by decide +kernel
  have hnew : submitting.sourceLast newHost < 1 := by decide +kernel
  have hnothing := findsNothing_of_step (w := ⟨submitted, 0, some (.fetching 10), []⟩) rfl hturn
  obtain ⟨-, hcopied⟩ := copied_iff_behind_cursor rfl hsource (hread.runSteps rfl) hnothing
  refine ⟨_, hheld, hnew, hnothing, ?_⟩
  rw [(hcopied _ hread).1 _ hheld, hcursor]
  decide

end EdgeNode.Copying
