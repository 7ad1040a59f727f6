import EdgeNode.Proofs.Store.Held
import EdgeNode.Replication.Copy
/-!
# What a step of a job can do

A step of a run asks at most one store for one thing, or it writes the cursor.  `Copying.Move` lists
the steps with the stages that they lead to; what holds along runs follows by cases of it.
-/

namespace EdgeNode

namespace Copying

open Store (Request)

/-- A host that asked at most one store for one thing. -/
inductive Asked (h : Host) : Host → Prop
  /-- It asked none. -/
  | nothing : Asked h h
  /-- It asked one. -/
  | request {α : Type} {url : String} {work : Store → α × Store} (r : Request)
      (hwork : (work (h.store url)).2 = (h.store url).serve h.wallClock r) :
      Asked h (h.withStore url work).2

namespace Asked

variable {h h' : Host}

lemma files_eq (ha : Asked h h') : h'.files = h.files := by
  cases ha <;> rfl

lemma wallClock_eq (ha : Asked h h') : h'.wallClock = h.wallClock := by
  cases ha <;> rfl

/-- Every store was asked for a few things, one at most. -/
lemma exists_serveAll (ha : Asked h h') (url : String) :
    ∃ run, h'.store url = (h.store url).serveAll run := by
  cases ha with
  | nothing => exact ⟨[], rfl⟩
  | @request _ asked _ r hwork =>
    by_cases hurl : asked = url
    · subst hurl
      exact ⟨[(h.wallClock, r)], by rw [Host.store_withStore_self, hwork]; rfl⟩
    · exact ⟨[], Host.store_withStore_of_ne hurl _⟩

end Asked

/-! ### Stages -/

/-- The message that a run at a stage is behind, once it has read its cursor. -/
def Stage.cursor? : Stage → Option Nat
  | .fetching cursor => some cursor
  | .copying cursor _ => some cursor
  | .saving cursor _ => some cursor
  | .idle cursor _ => some cursor
  | _ => none

/-- The messages at hand at a stage that are still to be copied. -/
def Stage.batch : Stage → List StoredMessage
  | .copying _ batch => batch
  | .saving _ batch => batch
  | _ => []

/-- Whether the message copied last is still to be recorded. -/
def Stage.isSaving : Stage → Bool
  | .saving .. => true
  | _ => false

lemma Stage.batch_of_cursor? {stage : Stage} (h : stage.cursor? = none) : stage.batch = [] := by
  cases stage <;> first | rfl | contradiction

lemma Stage.isSaving_of_cursor? {stage : Stage} (h : stage.cursor? = none) :
    stage.isSaving = false := by
  cases stage <;> first | rfl | contradiction

/-- The stage of a run after a turn, none when it has ended. -/
def stageAfter (stage : Stage) : Turn → Option Stage
  | .next stage' => some stage'
  | .wait _ => some stage
  | .done _ => none

variable (r : Copying)

/-- Where the cursor of the job is kept. -/
def cursorFile : String :=
  r.topology.cursorPath r.job

/-- The message that a run of the job starts behind. -/
def startCursor (h : Host) : Nat :=
  if r.job.ephemeral then 0 else loadCursor h.files r.cursorFile

/-- The stage behind a message that was copied. -/
def copiedStage (cursor : Nat) (rest : List StoredMessage) : Stage :=
  if r.job.ephemeral then .copying cursor rest else .saving cursor rest

@[simp] lemma copiedStage_cursor? (cursor : Nat) (rest : List StoredMessage) :
    (r.copiedStage cursor rest).cursor? = some cursor := by
  unfold copiedStage
  split <;> rfl

@[simp] lemma copiedStage_batch (cursor : Nat) (rest : List StoredMessage) :
    (r.copiedStage cursor rest).batch = rest := by
  unfold copiedStage
  split <;> rfl

/-- A message that the target accepted from the job. -/
structure Copied where
  /-- Its number at the source. -/
  sequence : Nat
  /-- The stream that took it. -/
  stream : String
  /-- The message as the target accepted it. -/
  message : StoredMessage
deriving DecidableEq, Repr

/-- The messages that the target accepts in a step, one at most. -/
def copied (h : Host) : Stage → List Copied
  | .copying _ (m :: _) =>
    ((h.store r.job.targetUrl).acceptance? h.wallClock
        (.publish (r.job.targetSubject m.subject) m.payload)).toList.map fun a =>
      { sequence := m.sequence, stream := a.1, message := a.2 }
  | _ => []

/-- What a step of a run does: the stages before and after it, the host after it and the messages
that the target accepted. -/
inductive Move (h : Host) : Stage → Option Stage → Host → List Copied → Prop
  /-- It looks for its streams. -/
  | opening {stage stage' : Stage} {h' : Host} (hstage : stage ≠ .loading)
      (hbefore : stage.cursor? = none) (hafter : stage'.cursor? = none) (ha : Asked h h') :
      Move h stage (some stage') h' []
  /-- It ends. -/
  | ended {stage : Stage} {h' : Host} (hsaved : stage.isSaving = false) (ha : Asked h h') :
      Move h stage none h' []
  /-- It reads the cursor. -/
  | loaded : Move h .loading (some (.fetching (r.startCursor h))) h []
  /-- There is nothing to copy. -/
  | foundNothing {cursor wake : Nat} {h' : Host}
      (hfetch : (h.withStore r.job.sourceUrl fun s =>
        s.fetch h.wallClock r.job.sourceStream cursor batchSize) = (.ok [], h')) :
      Move h (.fetching cursor) (some (.idle cursor wake)) h' []
  /-- It has messages to copy. -/
  | found {cursor : Nat} {batch : List StoredMessage} {h' : Host}
      (hfetch : (h.withStore r.job.sourceUrl fun s =>
        s.fetch h.wallClock r.job.sourceStream cursor batchSize) = (.ok batch, h')) :
      Move h (.fetching cursor) (some (.copying cursor batch)) h' []
  /-- It is done with a batch. -/
  | turned {cursor : Nat} : Move h (.copying cursor []) (some (.fetching cursor)) h []
  /-- It copies a message. -/
  | copied {cursor number : Nat} {m : StoredMessage} {rest : List StoredMessage} {h' : Host}
      {stream : String} (hpublish : r.publish h m = (.ok number, h')) :
      Move h (.copying cursor (m :: rest)) (some (r.copiedStage m.sequence rest)) h'
        [{ sequence := m.sequence
           stream
           message :=
            { sequence := number
              subject := r.job.targetSubject m.subject
              payload := m.payload
              published := h.wallClock } }]
  /-- It records the message copied last. -/
  | saved {cursor : Nat} {rest : List StoredMessage} {files : Files}
      (hsave : saveCursor h.files h.wallClock r.cursorFile cursor = (.ok (), files)) :
      Move h (.saving cursor rest) (some (.copying cursor rest)) { h with files } []
  /-- It is idle. -/
  | rested {cursor wake : Nat} {stage' : Stage} (hcursor : stage'.cursor? = some cursor)
      (hbatch : stage'.batch = []) (hsaved : stage'.isSaving = false) :
      Move h (.idle cursor wake) (some stage') h []

/-! ### Opening streams -/

variable {r : Copying} {h h' : Host} {t : StopToken}

lemma exists_finish (o : Outcome Error Unit) : ∃ a, finish o = .done a := by
  unfold finish
  split <;> exact ⟨_, rfl⟩

lemma exists_find (r : Copying) (url name : String) (opening : Retry.Stage → Stage) :
    (∃ a, r.find url name opening = .done a) ∨
      r.find url name opening = .next (opening (.start r.retry)) := by
  unfold find
  split
  · exact .inl (exists_finish _)
  · exact .inr rfl

lemma asked_look (url stream : String) (h : Host) : Asked h (look url stream h).2 := by
  have hsame : (look url stream h).2
      = (h.withStore url fun s => s.streamInfo h.wallClock stream).2 := by
    unfold look
    split <;> next heq => rw [heq]
  rw [hsame]
  exact .request (.streamInfo stream) rfl

/-- A step of opening a stream looks for it once at most. -/
lemma openStream_cases {url name stream : String} {opening : Retry.Stage → Stage} {opened : Stage}
    {stage : Retry.Stage} {turn : Turn}
    (hopen : r.openStream h t url name stream opening opened stage = (turn, h')) :
    Asked h h' ∧ ((∃ s, turn = .next (opening s)) ∨ (∃ wake, turn = .wait wake) ∨
      turn = .next opened ∨ ∃ a, turn = .done a) := by
  have hasked : Asked h (Retry.step r.retry h.jitter h.uptime (h.isCancelled t)
      (fun _ => look url stream) h stage).2 := by
    unfold Retry.step
    split
    · split
      · exact .nothing
      · exact asked_look url stream h
    · exact .nothing
  unfold openStream at hopen
  dsimp only at hopen
  generalize Retry.step r.retry h.jitter h.uptime (h.isCancelled t) (fun _ => look url stream) h
    stage = answer at hopen hasked
  obtain ⟨answered, host⟩ := answer
  dsimp only at hopen hasked
  split at hopen
  · obtain ⟨rfl, rfl⟩ := Prod.mk.inj hopen
    exact ⟨hasked, .inl ⟨_, rfl⟩⟩
  · obtain ⟨rfl, rfl⟩ := Prod.mk.inj hopen
    exact ⟨hasked, .inr (.inl ⟨_, rfl⟩)⟩
  · obtain ⟨rfl, rfl⟩ := Prod.mk.inj hopen
    exact ⟨hasked, .inr (.inr (.inl rfl))⟩
  · obtain ⟨rfl, rfl⟩ := Prod.mk.inj hopen
    exact ⟨hasked, .inr (.inr (.inr (exists_finish _)))⟩
  · obtain ⟨rfl, rfl⟩ := Prod.mk.inj hopen
    exact ⟨hasked, .inr (.inr (.inr ⟨_, rfl⟩))⟩

/-! ### All steps -/

lemma move_find {url name : String} {opening : Retry.Stage → Stage} {stage : Stage}
    (hstage : stage ≠ .loading) (hbefore : stage.cursor? = none)
    (hsaved : stage.isSaving = false) (hafter : ∀ s, (opening s).cursor? = none) :
    r.Move h stage (stageAfter stage (r.find url name opening)) h [] := by
  rcases exists_find r url name opening with ⟨a, hfind⟩ | hfind
  · rw [hfind]
    exact .ended hsaved .nothing
  · rw [hfind]
    exact .opening hstage hbefore (hafter _) .nothing

lemma move_openStream {url name stream : String} {opening : Retry.Stage → Stage} {opened : Stage}
    {stage : Retry.Stage} {turn : Turn} (hstage : opening stage ≠ .loading)
    (hsaved : (opening stage).isSaving = false)
    (hopening : ∀ s, (opening s).cursor? = none) (hopened : opened.cursor? = none)
    (hopen : r.openStream h t url name stream opening opened stage = (turn, h')) :
    r.Move h (opening stage) (stageAfter (opening stage) turn) h' [] := by
  obtain ⟨hasked, ⟨s, rfl⟩ | ⟨wake, rfl⟩ | rfl | ⟨a, rfl⟩⟩ := openStream_cases hopen
  · exact .opening hstage (hopening stage) (hopening s) hasked
  · exact .opening hstage (hopening stage) (hopening stage) hasked
  · exact .opening hstage (hopening stage) hopened hasked
  · exact .ended hsaved hasked

/-- A batch that is fetched is what the source then holds behind the cursor, from the first on. -/
lemma batch_of_fetch {cursor : Nat} {batch : List StoredMessage}
    (hfetch : (h.withStore r.job.sourceUrl fun s =>
      s.fetch h.wallClock r.job.sourceStream cursor batchSize) = (.ok batch, h')) :
    batch = (((h'.store r.job.sourceUrl).held r.job.sourceStream).filter
      fun m => m.sequence > cursor).take batchSize := by
  have hstore := Host.store_withStore_self h r.job.sourceUrl fun s =>
    s.fetch h.wallClock r.job.sourceStream cursor batchSize
  have hanswer := Host.withStore_fst h r.job.sourceUrl fun s =>
    s.fetch h.wallClock r.job.sourceStream cursor batchSize
  rw [hfetch] at hstore hanswer
  rw [hstore]
  exact Store.fetch_eq_ok (Prod.ext hanswer.symm rfl)

/-- A run is idle where nothing was fetched. -/
lemma fetch_of_idle {cursor cursor' wake : Nat}
    (hstep : r.step h t (.fetching cursor) = (.next (.idle cursor' wake), h')) :
    (h.withStore r.job.sourceUrl fun s =>
      s.fetch h.wallClock r.job.sourceStream cursor batchSize) = (.ok [], h') := by
  rw [step] at hstep
  split at hstep
  · next hfetch =>
    rw [hfetch, (Prod.mk.inj hstep).2]
  · exact absurd (congrArg Prod.fst hstep) (by simp)
  · next e _ _ =>
    obtain ⟨a, hrefused⟩ := exists_finish (.error (.replicationJob r.job.name e.message))
    rw [refused, hrefused] at hstep
    exact absurd (congrArg Prod.fst hstep) (by simp)
  · exact absurd (congrArg Prod.fst hstep) (by simp)

/-- What the source holds where nothing is fetched lies up to the cursor. -/
lemma le_of_fetch_nil {cursor : Nat} {m : StoredMessage}
    (hfetch : (h.withStore r.job.sourceUrl fun s =>
      s.fetch h.wallClock r.job.sourceStream cursor batchSize) = (.ok [], h'))
    (hm : m ∈ (h'.store r.job.sourceUrl).held r.job.sourceStream) : m.sequence ≤ cursor := by
  have hnone := batch_of_fetch hfetch
  rcases List.take_eq_nil_iff.1 hnone.symm with hzero | hnone
  · exact absurd hzero (by decide)
  · by_contra hlt
    exact List.filter_eq_nil_iff.1 hnone m hm (by simpa using hlt)

lemma move_fetching {cursor : Nat} {turn : Turn}
    (hstep : r.step h t (.fetching cursor) = (turn, h')) :
    r.Move h (.fetching cursor) (stageAfter (.fetching cursor) turn) h' [] := by
  have hasked : Asked h (h.withStore r.job.sourceUrl fun s =>
      s.fetch h.wallClock r.job.sourceStream cursor batchSize).2 :=
    .request (.fetch r.job.sourceStream cursor batchSize) rfl
  rw [step] at hstep
  split at hstep
  · next hfetch =>
    obtain ⟨rfl, rfl⟩ := Prod.mk.inj hstep
    exact .foundNothing hfetch
  · next hfetch =>
    obtain ⟨rfl, rfl⟩ := Prod.mk.inj hstep
    exact .found hfetch
  · next hfetch =>
    obtain ⟨rfl, rfl⟩ := Prod.mk.inj hstep
    obtain ⟨a, hrefused⟩ := exists_finish (.error (.replicationJob r.job.name _))
    rw [refused, hrefused]
    rw [hfetch] at hasked
    exact .ended rfl hasked
  · next hfetch =>
    obtain ⟨rfl, rfl⟩ := Prod.mk.inj hstep
    rw [hfetch] at hasked
    exact .ended rfl hasked

/-- What the target accepts in a step that copies a message. -/
lemma copied_of_publish {cursor number : Nat} {m : StoredMessage} {rest : List StoredMessage}
    (hpublish : (r.publish h m).1 = .ok number) :
    ∃ stream, r.copied h (.copying cursor (m :: rest)) = [{
      sequence := m.sequence
      stream
      message :=
        { sequence := number
          subject := r.job.targetSubject m.subject
          payload := m.payload
          published := h.wallClock } }] := by
  obtain ⟨stream, haccepted⟩ := Store.acceptance?_of_publish hpublish
  exact ⟨stream, by simp only [copied, haccepted]; rfl⟩

lemma copied_of_not_publish {cursor : Nat} {m : StoredMessage} {rest : List StoredMessage}
    (hpublish : ∀ number, (r.publish h m).1 ≠ .ok number) :
    r.copied h (.copying cursor (m :: rest)) = [] := by
  simp only [copied, Store.acceptance?_of_not_publish hpublish]
  rfl

lemma move_copying {cursor : Nat} {batch : List StoredMessage} {turn : Turn}
    (hstep : r.step h t (.copying cursor batch) = (turn, h')) :
    r.Move h (.copying cursor batch) (stageAfter (.copying cursor batch) turn) h'
      (r.copied h (.copying cursor batch)) := by
  cases batch with
  | nil =>
    rw [step] at hstep
    split at hstep <;> obtain ⟨rfl, rfl⟩ := Prod.mk.inj hstep
    · exact .ended rfl .nothing
    · exact .turned
  | cons m rest =>
    have hasked : Asked h (r.publish h m).2 :=
      .request (.publish (r.job.targetSubject m.subject) m.payload) rfl
    rw [step] at hstep
    split at hstep
    · next number after hpublish =>
      obtain ⟨stream, hcopied⟩ := copied_of_publish (congrArg Prod.fst hpublish)
      have hturn : (turn, h') = (.next (r.copiedStage m.sequence rest), after) := by
        rw [← hstep, copiedStage]
        split <;> rfl
      obtain ⟨rfl, rfl⟩ := Prod.mk.inj hturn
      rw [hcopied]
      exact .copied hpublish
    · next hpublish =>
      obtain ⟨rfl, rfl⟩ := Prod.mk.inj hstep
      obtain ⟨a, hrefused⟩ := exists_finish (.error (.replicationJob r.job.name _))
      rw [refused, hrefused, copied_of_not_publish (by simp [hpublish])]
      rw [hpublish] at hasked
      exact .ended rfl hasked
    · next hpublish =>
      obtain ⟨rfl, rfl⟩ := Prod.mk.inj hstep
      rw [copied_of_not_publish (by simp [hpublish])]
      rw [hpublish] at hasked
      exact .ended rfl hasked

/-- **Every step of a run is one of the moves**, if cursors are written. -/
theorem move_of_step {stage : Stage} {turn : Turn} (hstep : r.step h t stage = (turn, h'))
    (hsaved : stage.isSaving → (stageAfter stage turn).isSome) :
    r.Move h stage (stageAfter stage turn) h' (r.copied h stage) := by
  cases stage with
  | findingSource =>
    obtain ⟨rfl, rfl⟩ := Prod.mk.inj hstep
    exact move_find (by simp) rfl rfl fun _ => rfl
  | openingSource stage => exact move_openStream (by simp) rfl (fun _ => rfl) rfl hstep
  | findingTarget =>
    obtain ⟨rfl, rfl⟩ := Prod.mk.inj hstep
    exact move_find (by simp) rfl rfl fun _ => rfl
  | openingTarget stage => exact move_openStream (by simp) rfl (fun _ => rfl) rfl hstep
  | loading =>
    have hturn : (turn, h') = (.next (.fetching (r.startCursor h)), h) := by
      rw [← hstep, step, startCursor]
      split <;> rfl
    obtain ⟨rfl, rfl⟩ := Prod.mk.inj hturn
    exact .loaded
  | fetching cursor => exact move_fetching hstep
  | copying cursor batch => exact move_copying hstep
  | saving cursor rest =>
    rw [step] at hstep
    split at hstep
    · next hsave =>
      obtain ⟨rfl, rfl⟩ := Prod.mk.inj hstep
      exact .saved hsave
    · next e _ _ =>
      obtain ⟨a, hfinish⟩ := exists_finish (.error e)
      obtain ⟨rfl, rfl⟩ := Prod.mk.inj hstep
      rw [hfinish] at hsaved
      exact absurd (hsaved rfl) (by simp [stageAfter])
  | idle cursor wake =>
    rw [step] at hstep
    split at hstep <;> obtain ⟨rfl, rfl⟩ := Prod.mk.inj hstep
    · exact .ended rfl .nothing
    · exact .rested rfl rfl rfl
    · exact .rested rfl rfl rfl

end Copying

end EdgeNode
