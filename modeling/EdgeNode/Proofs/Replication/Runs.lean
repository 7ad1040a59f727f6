import EdgeNode.Proofs.Files
import EdgeNode.Proofs.Replication.Batches
import EdgeNode.Proofs.Replication.Cursor
import Mathlib.Logic.Relation
/-!
# Runs of a job among others

A job is run again and again on a host where others work as well: they ask the source for whatever
they like, and every change to it, the publications of the job itself included, is a run of
requests.  `Tracks` is what holds while the job is run: it knows up to where it has copied.
`Recorded` adds that its file knows as well, which is what the next run begins with.
-/

namespace EdgeNode.Copying

/-- A job on its host. -/
structure Situation where
  /-- The host. -/
  host : Host
  /-- The token by which its run is told to stop. -/
  token : StopToken
  /-- Where its run stands, if one is going on. -/
  stage? : Option Stage
  /-- What the target has accepted from it. -/
  log : List Copied

variable (r : Copying)

/-- A step while a run is going on: one of others, or one of the run, which does not end because a
cursor cannot be written. -/
inductive RunStep (others : Host → Host → Prop) : Situation → Situation → Prop
  | own {h h' : Host} {t : StopToken} {stage : Stage} {turn : Turn} {log : List Copied}
      (hstep : r.step h t stage = (turn, h'))
      (hsaved : stage.isSaving → (stageAfter stage turn).isSome) :
      RunStep others ⟨h, t, some stage, log⟩
        ⟨h', t, stageAfter stage turn, log ++ r.copied h stage⟩
  | others {h h' : Host} {t : StopToken} {stage? : Option Stage} {log : List Copied}
      (hothers : others h h') : RunStep others ⟨h, t, stage?, log⟩ ⟨h', t, stage?, log⟩

/-- A step of a job that is run again and again. -/
inductive Step (others : Host → Host → Prop) : Situation → Situation → Prop
  | within {w w' : Situation} (h : r.RunStep others w w') : Step others w w'
  | begin {h : Host} {t : StopToken} {log : List Copied} (t' : StopToken) :
      Step others ⟨h, t, none, log⟩ ⟨h, t', some .findingSource, log⟩

/-! ### A run that is left alone -/

/-- The situation after the next step of a run, if one is going on. -/
def advance (w : Situation) : Situation :=
  match w.stage? with
  | none => w
  | some stage =>
    match r.step w.host w.token stage with
    | (turn, h) => ⟨h, w.token, stageAfter stage turn, w.log ++ r.copied w.host stage⟩

/-- The situation after so many steps. -/
def advanceBy : Nat → Situation → Situation
  | 0, w => w
  | n + 1, w => advanceBy n (r.advance w)

section

variable {r} {others : Host → Host → Prop} {w : Situation}

lemma advance_some (h : Host) (t : StopToken) (stage : Stage) (log : List Copied) :
    r.advance ⟨h, t, some stage, log⟩
      = ⟨(r.step h t stage).2, t, stageAfter stage (r.step h t stage).1,
          log ++ r.copied h stage⟩ := by
  dsimp only [advance]

lemma advanceBy_of_ended (h : w.stage? = none) (n : Nat) : r.advanceBy n w = w := by
  induction n with
  | zero => rfl
  | succ n ih =>
    have hsame : r.advance w = w := by simp only [advance, h]
    rw [advanceBy, hsame, ih]

lemma runStep_advance (hgoing : w.stage?.isSome)
    (hsaved : ∀ stage ∈ w.stage?, stage.isSaving → (r.advance w).stage?.isSome) :
    r.RunStep others w (r.advance w) := by
  obtain ⟨host, token, stage?, log⟩ := w
  cases stage? with
  | none => contradiction
  | some stage =>
    rw [advance_some] at hsaved ⊢
    exact .own rfl fun hsaving => hsaved stage rfl hsaving

/-- Steps of a run that is still going on after them. -/
lemma runSteps_advanceBy (n : Nat) (h : (r.advanceBy n w).stage?.isSome) :
    Relation.ReflTransGen (r.RunStep others) w (r.advanceBy n w) := by
  induction n generalizing w with
  | zero => exact .refl
  | succ n ih =>
    have hnext : (r.advance w).stage?.isSome := by
      by_contra hended
      rw [advanceBy, advanceBy_of_ended (by simpa using hended)] at h
      exact hended h
    have hgoing : w.stage?.isSome := by
      by_contra hended
      have hsame : r.advance w = w := advanceBy_of_ended (by simpa using hended) 1
      rw [hsame] at hnext
      exact hended hnext
    exact .head (runStep_advance hgoing fun _ _ _ => hnext) (ih h)

end

/-! ### Others -/

/-- The store of the source. -/
def source (h : Host) : Store :=
  h.store r.job.sourceUrl

/-- Others may ask the source for anything. -/
structure Around (h h' : Host) : Prop where
  source : ∃ run, (r.source h').streams = ((r.source h).serveAll run).streams

/-- Others may ask the source for anything and leave the cursor of the job alone.  The clock shows
days that have a date. -/
structure Beside (h h' : Host) : Prop extends r.Around h h' where
  cursor : h'.files.read r.cursorFile = h.files.read r.cursorFile
  clock : Calendar.HasDay h'.wallClock

variable {r} {h h' : Host} {c₀ : Nat} {log new : List Copied} {stage : Stage}
  {stage? : Option Stage} {w w' : Situation}

namespace Around

lemma sound (ha : r.Around h h') (hs : (r.source h).Sound) : (r.source h').Sound := by
  obtain ⟨run, hrun⟩ := ha.source
  exact (hs.serveAll run).congr hrun

lemma later (ha : r.Around h h') (hs : (r.source h).Sound) (name : String) :
    (r.source h).Later (r.source h') name := by
  obtain ⟨run, hrun⟩ := ha.source
  exact (Store.Later.serveAll hs name run).congr hrun

lemma of_asked (ha : Asked h h') : r.Around h h' := by
  obtain ⟨run, hrun⟩ := ha.exists_serveAll r.job.sourceUrl
  exact ⟨run, by rw [Copying.source, Copying.source, hrun]⟩

end Around

namespace Move

lemma asked_publish (h : Host) (m : StoredMessage) : Asked h (r.publish h m).2 :=
  .request (.publish (r.job.targetSubject m.subject) m.payload) rfl

lemma asked_fetch (h : Host) (cursor : Nat) :
    Asked h (h.withStore r.job.sourceUrl fun s =>
      s.fetch h.wallClock r.job.sourceStream cursor batchSize).2 :=
  .request (.fetch r.job.sourceStream cursor batchSize) rfl

/-- A step asks a store, or it writes the cursor. -/
lemma asked_or_saved (hm : r.Move h stage stage? h' new) :
    Asked h h' ∨ stage.isSaving ∧ ∃ files, h' = { h with files } := by
  cases hm with
  | opening _ _ _ ha => exact .inl ha
  | ended _ ha => exact .inl ha
  | @foundNothing cursor _ _ hfetch =>
    have ha := asked_fetch (r := r) h cursor
    rw [hfetch] at ha
    exact .inl ha
  | @found cursor _ _ hfetch =>
    have ha := asked_fetch (r := r) h cursor
    rw [hfetch] at ha
    exact .inl ha
  | @copied _ _ m _ _ _ hpublish =>
    have ha := asked_publish (r := r) h m
    rw [hpublish] at ha
    exact .inl ha
  | saved _ => exact .inr ⟨rfl, _, rfl⟩
  | loaded | turned | rested => exact .inl .nothing

/-- Whatever a step does, to the source it is a run of requests. -/
lemma around (hm : r.Move h stage stage? h' new) : r.Around h h' := by
  rcases hm.asked_or_saved with ha | ⟨-, files, rfl⟩
  · exact .of_asked ha
  · exact ⟨[], rfl⟩

lemma wallClock_eq (hm : r.Move h stage stage? h' new) : h'.wallClock = h.wallClock := by
  rcases hm.asked_or_saved with ha | ⟨-, files, rfl⟩
  · exact ha.wallClock_eq
  · rfl

lemma files_eq (hm : r.Move h stage stage? h' new) (hsaving : stage.isSaving = false) :
    h'.files = h.files := by
  rcases hm.asked_or_saved with ha | ⟨hsaved, -⟩
  · exact ha.files_eq
  · simp [hsaving] at hsaved

/-- A run that has read its cursor does not read it again. -/
lemma isSome_cursor? (hm : r.Move h stage stage? h' new) (hloaded : stage.cursor?.isSome) :
    ∀ stage' ∈ stage?, stage'.cursor?.isSome := by
  intro stage' hstage'
  cases hm with
  | opening _ hbefore _ _ => simp [hbefore] at hloaded
  | ended _ _ => contradiction
  | loaded => contradiction
  | foundNothing | found | turned | saved =>
    obtain rfl := Option.some.inj hstage'
    rfl
  | copied _ =>
    obtain rfl := Option.some.inj hstage'
    simp
  | rested hcursor _ _ =>
    obtain rfl := Option.some.inj hstage'
    simp [hcursor]

end Move

/-! ### Knowing how far -/

/-- What holds of the stage of a run: it is behind the message copied last, and what it has at hand
comes next. -/
structure Stands (r : Copying) (c₀ : Nat) (h : Host) (log : List Copied) (stage : Stage) :
    Prop where
  position : ∀ cursor ∈ stage.cursor?, cursor = lastCopied c₀ log
  pending : Pending (r.source h) r.job.sourceStream (lastCopied c₀ log) stage.batch
  nonempty : stage.isSaving → log ≠ []

/-- What holds while a job is run: everything up to the message copied last was copied, and the run
that is going on knows that message. -/
structure Tracks (r : Copying) (c₀ : Nat) (h : Host) (stage? : Option Stage) (log : List Copied) :
    Prop where
  sound : (r.source h).Sound
  caughtUp : CaughtUp r.job (r.source h) c₀ log
  stands : ∀ stage ∈ stage?, Stands r c₀ h log stage

/-- A stage at which nothing is at hand. -/
lemma Stands.of_batch_eq_nil (hposition : ∀ cursor ∈ stage.cursor?, cursor = lastCopied c₀ log)
    (hbatch : stage.batch = []) (hsaving : stage.isSaving = false) :
    Stands r c₀ h log stage where
  position := hposition
  pending := hbatch ▸ .nil _ _ _
  nonempty hsaved := by simp [hsaving] at hsaved

namespace Tracks

/-- Others do not matter. -/
lemma around (htracks : Tracks r c₀ h stage? log) (ha : r.Around h h') :
    Tracks r c₀ h' stage? log where
  sound := ha.sound htracks.sound
  caughtUp := htracks.caughtUp.later (ha.later htracks.sound _)
  stands stage hstage :=
    { htracks.stands stage hstage with
      pending := (htracks.stands stage hstage).pending.later (ha.later htracks.sound _) }

lemma ended (htracks : Tracks r c₀ h stage? log) : Tracks r c₀ h none log :=
  ⟨htracks.sound, htracks.caughtUp, fun _ hstage => by contradiction⟩

lemma arrived (htracks : Tracks r c₀ h stage? log) (hstands : Stands r c₀ h log stage) :
    Tracks r c₀ h (some stage) log := by
  refine ⟨htracks.sound, htracks.caughtUp, fun stage' hstage' => ?_⟩
  obtain rfl := Option.some.inj hstage'
  exact hstands

/-- A batch that was fetched comes next. -/
lemma found {cursor : Nat} {batch : List StoredMessage}
    (htracks : Tracks r c₀ h' (some (.fetching cursor)) log)
    (hfetch : (h.withStore r.job.sourceUrl fun s =>
      s.fetch h.wallClock r.job.sourceStream cursor batchSize) = (.ok batch, h')) :
    Tracks r c₀ h' (some (.copying cursor batch)) log := by
  have hposition : cursor = lastCopied c₀ log :=
    (htracks.stands _ rfl).position cursor rfl
  have hbatch := batch_of_fetch hfetch
  refine htracks.arrived ⟨(htracks.stands _ rfl).position, ?_, fun hsaving => by contradiction⟩
  rw [← hposition, Stage.batch, hbatch]
  exact .of_fetch htracks.sound cursor batchSize

/-- After a message was copied the rest of the batch comes next. -/
lemma copied {cursor : Nat} {m : StoredMessage} {rest : List StoredMessage} {c : Copied}
    (htracks : Tracks r c₀ h (some (.copying cursor (m :: rest))) log) (hc : c.Carries r.job m) :
    Tracks r c₀ h (some (r.copiedStage m.sequence rest)) (log ++ [c]) := by
  have hpending := (htracks.stands _ rfl).pending
  have hconcat : Tracks r c₀ h none (log ++ [c]) :=
    ⟨htracks.sound, htracks.caughtUp.concat hpending hc, fun _ hstage => by contradiction⟩
  refine hconcat.arrived ⟨fun cursor hcursor => ?_, ?_, fun _ => by simp⟩
  · rw [copiedStage_cursor?] at hcursor
    rw [lastCopied_concat, hc.1]
    exact (Option.some.inj hcursor).symm
  · rw [copiedStage_batch, lastCopied_concat, hc.1]
    exact hpending.tail

/-- A run keeps track, if it begins behind the message copied last. -/
theorem move (htracks : Tracks r c₀ h (some stage) log) (hm : r.Move h stage stage? h' new)
    (hload : stage = .loading → r.startCursor h = lastCopied c₀ log) :
    Tracks r c₀ h' stage? (log ++ new) := by
  have hmoved : Tracks r c₀ h' (some stage) log := htracks.around hm.around
  have hstands : Stands r c₀ h' log stage := hmoved.stands stage rfl
  have hat := hstands.position
  cases hm with
  | opening _ _ hafter _ =>
    rw [List.append_nil]
    exact hmoved.arrived (.of_batch_eq_nil (by simp [hafter]) (Stage.batch_of_cursor? hafter)
      (Stage.isSaving_of_cursor? hafter))
  | ended _ _ =>
    rw [List.append_nil]
    exact hmoved.ended
  | loaded =>
    -- a run begins where the one before it ended
    rw [List.append_nil]
    refine hmoved.arrived (.of_batch_eq_nil (fun cursor hcursor => ?_) rfl rfl)
    rw [← hload rfl]
    exact (Option.some.inj hcursor).symm
  | foundNothing _ =>
    rw [List.append_nil]
    exact hmoved.arrived (.of_batch_eq_nil hat rfl rfl)
  | found hfetch =>
    rw [List.append_nil]
    exact hmoved.found hfetch
  | turned =>
    rw [List.append_nil]
    exact hmoved.arrived (.of_batch_eq_nil hat rfl rfl)
  | copied _ => exact hmoved.copied ⟨rfl, rfl, rfl⟩
  | saved _ =>
    rw [List.append_nil]
    exact hmoved.arrived ⟨hat, hstands.pending, fun hsaving => by contradiction⟩
  | rested hcursor hbatch hsaving =>
    rw [List.append_nil]
    refine hmoved.arrived (.of_batch_eq_nil (fun cursor h => hat cursor ?_) hbatch hsaving)
    rw [hcursor] at h
    exact h

end Tracks

/-! ### The file knows as well -/

/-- A cursor that was saved is loaded. -/
lemma loadCursor_saveCursor {f f' : Files} {now n : Nat} {path : String}
    (hsave : saveCursor f now path n = (.ok (), f')) (hn : n < 2 ^ 64)
    (hclock : Calendar.HasDay now) : loadCursor f' path = n := by
  unfold saveCursor at hsave
  split at hsave
  · exact absurd (congrArg Prod.fst hsave) (by simp)
  · split at hsave
    · next hwrite =>
      obtain ⟨-, rfl⟩ := Prod.mk.inj hsave
      rw [loadCursor, Files.read_write hwrite]
      exact Cursor.decode_encode hn hclock
    · exact absurd (congrArg Prod.fst hsave) (by simp)

/-- The file of a job names the message copied last, unless that is still to be recorded. -/
structure Recorded (r : Copying) (c₀ : Nat) (h : Host) (stage? : Option Stage)
    (log : List Copied) : Prop where
  clock : Calendar.HasDay h.wallClock
  cursor : (∀ stage ∈ stage?, stage.isSaving = false) →
    loadCursor h.files r.cursorFile = lastCopied c₀ log

namespace Recorded

lemma beside (hrecorded : Recorded r c₀ h stage? log) (hb : r.Beside h h') :
    Recorded r c₀ h' stage? log where
  clock := hb.clock
  cursor hsaving := by
    rw [loadCursor, hb.cursor]
    exact hrecorded.cursor hsaving

/-- A step leaves the file as it was, or it records the message copied last, if its number fits. -/
lemma move (hrecorded : Recorded r c₀ h (some stage) log) (hdurable : r.job.ephemeral = false)
    (htracks : Tracks r c₀ h (some stage) log) (hm : r.Move h stage stage? h' new)
    (hfits : (r.source h).lastNumber r.job.sourceStream < 2 ^ 64) :
    Recorded r c₀ h' stage? (log ++ new) := by
  refine ⟨hm.wallClock_eq ▸ hrecorded.clock, fun hsaving => ?_⟩
  have hkept : stage.isSaving = false → loadCursor h'.files r.cursorFile = lastCopied c₀ log := by
    intro hnot
    rw [hm.files_eq hnot]
    exact hrecorded.cursor fun stage' hstage' => Option.some.inj hstage' ▸ hnot
  cases hm with
  | opening _ hbefore _ _ =>
    rw [List.append_nil]
    exact hkept (Stage.isSaving_of_cursor? hbefore)
  | ended hnot _ =>
    rw [List.append_nil]
    exact hkept hnot
  | loaded | foundNothing | found | turned | rested =>
    rw [List.append_nil]
    exact hkept rfl
  | copied _ =>
    -- a durable job goes on to record what it copied
    have hnext := hsaving _ rfl
    simp [copiedStage, hdurable, Stage.isSaving] at hnext
  | saved hsave =>
    have hstands := htracks.stands _ rfl
    have hcursor := hstands.position _ rfl
    have hlast : lastCopied c₀ log < 2 ^ 64 :=
      Nat.lt_of_le_of_lt (htracks.caughtUp.lastCopied_le (hstands.nonempty rfl)) hfits
    rw [List.append_nil, ← hcursor]
    exact loadCursor_saveCursor hsave (hcursor ▸ hlast) hrecorded.clock

end Recorded

end EdgeNode.Copying
