import EdgeNode.Proofs.Replication.Delivery
import EdgeNode.Proofs.Store.Newest
/-!
# Starting over from the source

An ephemeral job copies what its source holds from the first message on, whenever it is run, and
keeps no cursor.  What it has copied last on a subject is the newest message there on the target,
as long as nobody else publishes on that subject there, and the source drops what it holds on a
subject oldest first.  So the values agree, subject by subject, whenever the run finds nothing more
to copy: `Mirrors` is what carries that through a run.

A batch may hold messages that the source has dropped by the time they are copied; on every such
subject the source then holds nothing older.
-/

namespace EdgeNode.Copying

open Relation (ReflTransGen)
open Store (Request)

variable (r : Copying)

/-- The store of the target. -/
def target (h : Host) : Store :=
  h.store r.job.targetUrl

/-! ### Who is asked for what -/

/-- The one request that a step at a stage may make, with the address that it goes to. -/
def request? : Stage → Option (String × Request)
  | .openingSource _ => some (r.job.sourceUrl, .streamInfo r.job.sourceStream)
  | .openingTarget _ => some (r.job.targetUrl, .streamInfo r.job.targetStream)
  | .fetching cursor => some (r.job.sourceUrl, .fetch r.job.sourceStream cursor batchSize)
  | .copying _ (m :: _) =>
    some (r.job.targetUrl, .publish (r.job.targetSubject m.subject) m.payload)
  | _ => none

/-- One store was asked for something, and the others for nothing. -/
structure Requested (h h' : Host) (url : String) (q : Request) : Prop where
  asked : h'.store url = (h.store url).serve h.wallClock q
  others : ∀ other, url ≠ other → h'.store other = h.store other

variable {r} {h h' : Host} {t : StopToken} {stage : Stage} {turn : Turn} {url : String}
  {q : Request}

lemma requested_withStore {α : Type} {work : Store → α × Store}
    (hwork : (work (h.store url)).2 = (h.store url).serve h.wallClock q) :
    Requested h (h.withStore url work).2 url q where
  asked := by rw [Host.store_withStore_self, hwork]
  others _ hne := Host.store_withStore_of_ne hne work

lemma look_snd (url stream : String) (h : Host) :
    (look url stream h).2 = (h.withStore url fun s => s.streamInfo h.wallClock stream).2 := by
  unfold look
  split <;> next heq => rw [heq]

/-- Opening a stream looks for it, or waits. -/
lemma openStream_snd {name stream : String} {opening : Retry.Stage → Stage} {opened : Stage}
    {retry : Retry.Stage} :
    (r.openStream h t url name stream opening opened retry).2 = h ∨
      (r.openStream h t url name stream opening opened retry).2 = (look url stream h).2 := by
  have hworld : (Retry.step r.retry h.jitter h.uptime (h.isCancelled t)
      (fun _ => look url stream) h retry).2 = h ∨
      (Retry.step r.retry h.jitter h.uptime (h.isCancelled t)
        (fun _ => look url stream) h retry).2 = (look url stream h).2 := by
    unfold Retry.step
    split
    · split
      · exact .inl rfl
      · exact .inr rfl
    · exact .inl rfl
  have hsame : (r.openStream h t url name stream opening opened retry).2
      = (Retry.step r.retry h.jitter h.uptime (h.isCancelled t)
        (fun _ => look url stream) h retry).2 := by
    unfold openStream
    dsimp only
    split <;> rfl
  rw [hsame]
  exact hworld

/-- Where a message is at hand it is published, whatever comes of it. -/
lemma requested_copying {cursor : Nat} {m : StoredMessage} {rest : List StoredMessage}
    (hstep : r.step h t (.copying cursor (m :: rest)) = (turn, h')) :
    Requested h h' r.job.targetUrl (.publish (r.job.targetSubject m.subject) m.payload) := by
  have hasked : Requested h (r.publish h m).2 r.job.targetUrl
      (.publish (r.job.targetSubject m.subject) m.payload) := requested_withStore rfl
  rw [step] at hstep
  split at hstep
  · next hpublish =>
    rw [hpublish] at hasked
    split at hstep <;> obtain ⟨-, rfl⟩ := Prod.mk.inj hstep <;> exact hasked
  · next hpublish =>
    obtain ⟨-, rfl⟩ := Prod.mk.inj hstep
    rwa [hpublish] at hasked
  · next hpublish =>
    obtain ⟨-, rfl⟩ := Prod.mk.inj hstep
    rwa [hpublish] at hasked

/-- **A step makes the request of its stage or none.** -/
theorem step_request (hstep : r.step h t stage = (turn, h')) :
    (∀ url, h'.store url = h.store url) ∨
      ∃ url q, r.request? stage = some (url, q) ∧ Requested h h' url q := by
  have hlook : ∀ {url stream : String} {after : Host},
      after = h ∨ after = (look url stream h).2 →
      (∀ url, after.store url = h.store url) ∨ Requested h after url (.streamInfo stream) := by
    rintro url stream after (rfl | rfl)
    · exact .inl fun _ => rfl
    · rw [look_snd]
      exact .inr (requested_withStore rfl)
  cases stage with
  | findingSource | findingTarget =>
    obtain ⟨-, rfl⟩ := Prod.mk.inj hstep
    exact .inl fun _ => rfl
  | openingSource stage | openingTarget stage =>
    obtain rfl : _ = h' := congrArg Prod.snd hstep
    exact (hlook openStream_snd).imp_right fun hasked => ⟨_, _, rfl, hasked⟩
  | loading =>
    rw [step] at hstep
    split at hstep <;> obtain ⟨-, rfl⟩ := Prod.mk.inj hstep <;> exact .inl fun _ => rfl
  | fetching cursor =>
    have hasked : Requested h (h.withStore r.job.sourceUrl fun s =>
        s.fetch h.wallClock r.job.sourceStream cursor batchSize).2 r.job.sourceUrl
        (.fetch r.job.sourceStream cursor batchSize) := requested_withStore rfl
    refine .inr ⟨_, _, rfl, ?_⟩
    rw [step] at hstep
    split at hstep <;> next hfetch =>
      obtain ⟨-, rfl⟩ := Prod.mk.inj hstep
      rwa [hfetch] at hasked
  | copying cursor batch =>
    cases batch with
    | nil =>
      rw [step] at hstep
      split at hstep <;> obtain ⟨-, rfl⟩ := Prod.mk.inj hstep <;> exact .inl fun _ => rfl
    | cons m rest => exact .inr ⟨_, _, rfl, requested_copying hstep⟩
  | saving cursor rest =>
    rw [step] at hstep
    split at hstep <;> obtain ⟨-, rfl⟩ := Prod.mk.inj hstep <;> exact .inl fun _ => rfl
  | idle cursor wake =>
    rw [step] at hstep
    split at hstep <;> obtain ⟨-, rfl⟩ := Prod.mk.inj hstep <;> exact .inl fun _ => rfl

/-- A job asks its source and its target, and neither to create anything. -/
lemma request?_cases (hq : r.request? stage = some (url, q)) :
    q.spec? = none ∧ ((url = r.job.sourceUrl ∧ ∀ subject payload, q ≠ .publish subject payload) ∨
      url = r.job.targetUrl) := by
  rcases stage with _ | _ | _ | _ | _ | _ | ⟨_, _ | ⟨m, rest⟩⟩ | _ | _ <;>
    first
    | contradiction
    | obtain ⟨rfl, rfl⟩ := Prod.mk.inj (Option.some.inj hq)
      simp [Request.spec?]

/-- Only a message at hand is published. -/
lemma mem_batch_of_request? {subject : String} {payload : Bytes}
    (hq : r.request? stage = some (url, .publish subject payload)) :
    ∃ m ∈ stage.batch, subject = r.job.targetSubject m.subject := by
  rcases stage with _ | _ | _ | _ | _ | _ | ⟨_, _ | ⟨m, rest⟩⟩ | _ | _ <;>
    simp only [request?, reduceCtorEq, Option.some.injEq, Prod.mk.injEq, and_false,
      Request.publish.injEq] at hq
  exact ⟨m, List.mem_cons_self, hq.2.1.symm⟩

/-- A step leaves every stream what it was asked to be and makes none. -/
lemma spec?_step (hsource : (r.source h).streams.Sorted) (htarget : (r.target h).streams.Sorted)
    (hstep : r.step h t stage = (turn, h')) (url name : String) :
    (h'.store url).spec? name = (h.store url).spec? name := by
  rcases step_request hstep with hsame | ⟨asked, q, hq, hasked⟩
  · rw [hsame]
  · obtain ⟨hcreates, hwhere⟩ := request?_cases hq
    by_cases hurl : asked = url
    · subst hurl
      rw [hasked.asked]
      refine Store.spec?_serve ?_ hcreates h.wallClock name
      rcases hwhere with ⟨rfl, -⟩ | rfl
      · exact hsource
      · exact htarget
    · rw [hasked.others url hurl]

/-! ### Files -/

/-- A retried operation that does the same in another world is retried there alike. -/
lemma retryStep_map {σ ε α : Type} {operation : Nat → σ → Outcome ε α × σ} {f : σ → σ}
    (hsame : ∀ n world, operation n (f world) = ((operation n world).1, f (operation n world).2))
    (c : RetryConfig) (jitter : Float) (now : Nat) (isCancelled : Bool) (world : σ)
    (stage : Retry.Stage) :
    Retry.step c jitter now isCancelled operation (f world) stage
      = ((Retry.step c jitter now isCancelled operation world stage).1,
        f (Retry.step c jitter now isCancelled operation world stage).2) := by
  cases stage with
  | ready attempts delay =>
    rw [Retry.step, Retry.step]
    split
    · rfl
    · rw [hsame]
  | pausing attempts delay wake => rfl

/-- A host with other files. -/
def withFiles (files : Files) (h : Host) : Host :=
  { h with files }

lemma withStore_withFiles {α : Type} (files : Files) (h : Host) (url : String)
    (work : Store → α × Store) :
    (withFiles files h).withStore url work
      = ((h.withStore url work).1, withFiles files (h.withStore url work).2) := rfl

lemma look_withFiles (files : Files) (url stream : String) (h : Host) :
    look url stream (withFiles files h)
      = ((look url stream h).1, withFiles files (look url stream h).2) := by
  unfold look
  rw [withStore_withFiles]
  have hclock : (withFiles files h).wallClock = h.wallClock := rfl
  rw [hclock]
  generalize h.withStore url (fun s => s.streamInfo h.wallClock stream) = answer
  obtain ⟨_ | _ | _, after⟩ := answer <;> rfl

lemma openStream_withFiles (files : Files) (h : Host) (t : StopToken) (url name stream : String)
    (opening : Retry.Stage → Stage) (opened : Stage) (retry : Retry.Stage) :
    r.openStream (withFiles files h) t url name stream opening opened retry
      = ((r.openStream h t url name stream opening opened retry).1,
        withFiles files (r.openStream h t url name stream opening opened retry).2) := by
  have hretry := retryStep_map (fun _ => look_withFiles files url stream) r.retry h.jitter h.uptime
    (h.isCancelled t) h retry
  have hsame : Retry.step r.retry (withFiles files h).jitter (withFiles files h).uptime
      ((withFiles files h).isCancelled t) (fun _ => look url stream) (withFiles files h) retry
      = _ := hretry
  unfold openStream
  dsimp only
  rw [hsame]
  generalize Retry.step r.retry h.jitter h.uptime (h.isCancelled t) (fun _ => look url stream) h
    retry = answer
  obtain ⟨retried, after⟩ := answer
  dsimp only
  split <;> rfl

/-- **An ephemeral job neither reads files nor writes them**: with other files its steps are the
same, and leave those files as they are. -/
theorem step_withFiles (hephemeral : r.job.ephemeral = true) (hsaving : stage.isSaving = false)
    (h : Host) (t : StopToken) (files : Files) :
    r.step (withFiles files h) t stage
      = ((r.step h t stage).1, withFiles files (r.step h t stage).2) := by
  cases stage with
  | findingSource | findingTarget => rfl
  | openingSource stage | openingTarget stage => exact openStream_withFiles files h t ..
  | loading => rw [step, step, if_pos hephemeral, if_pos hephemeral]
  | fetching cursor =>
    have hclock : (withFiles files h).wallClock = h.wallClock := rfl
    rw [step, step, withStore_withFiles, hclock]
    generalize h.withStore r.job.sourceUrl (fun s =>
      s.fetch h.wallClock r.job.sourceStream cursor batchSize) = answer
    obtain ⟨(_ | ⟨m, rest⟩) | _ | _, after⟩ := answer <;> rfl
  | copying cursor batch =>
    cases batch with
    | nil =>
      have hsame : (withFiles files h).isCancelled t = h.isCancelled t := rfl
      rw [step, step, hsame]
      split <;> rfl
    | cons m rest =>
      have hpublish : r.publish (withFiles files h) m
          = ((r.publish h m).1, withFiles files (r.publish h m).2) := rfl
      rw [step, step, hpublish]
      generalize r.publish h m = answer
      obtain ⟨_ | _ | _, after⟩ := answer
      · simp only [hephemeral, if_true]
      · rfl
      · rfl
  | saving cursor rest => contradiction
  | idle cursor wake =>
    have hsame : (withFiles files h).pause t wake = h.pause t wake := rfl
    rw [step, step, hsame]
    split <;> rfl

/-! ### What others do -/

/-- The target routes subjects to the target stream of the job, if anywhere, and the stream drops
no message for its age and keeps one at least on every subject. -/
structure Serves (r : Copying) (subjects : String → Prop) (h : Host) : Prop where
  routed : ∀ subject, subjects subject → ∀ name stream,
    (r.target h).route? subject = some (name, stream) → name = r.job.targetStream
  lasting : (r.target h).Lasting r.job.targetStream

/-- Others may ask the source for anything, as long as no publication is dated before what a stream
with an age limit holds, and the target for anything but publications on the subjects that the
source holds. -/
structure Alongside (r : Copying) (subjects : String → Prop) (h h' : Host) : Prop where
  source : ∃ run, (r.source h').streams = ((r.source h).serveAll run).streams ∧
    Store.RunInTime r.job.sourceStream (r.source h) run
  sent : ∀ m ∈ r.sourceHeld h', subjects m.subject
  target : ∃ run, (r.target h').streams = ((r.target h).serveAll run).streams ∧
    ∀ e ∈ run, ∀ subject payload, e.2 = .publish subject payload → ¬ subjects subject
  serves : r.Serves subjects h'

/-- What holds of a run of an ephemeral job at any time, whoever its source and target are. -/
structure Confined (r : Copying) (subjects : String → Prop) (h : Host) (stage : Stage) : Prop where
  unsaved : stage.isSaving = false
  batch : ∀ b ∈ stage.batch, subjects b.subject
  sent : ∀ m ∈ r.sourceHeld h, subjects m.subject
  sourceSorted : (r.source h).streams.Sorted
  targetSorted : (r.target h).streams.Sorted
  serves : r.Serves subjects h

variable {subjects : String → Prop} {stage' : Stage} {log new : List Copied}

/-- A step goes on with what it had at hand, or with what it fetched. -/
lemma Move.mem_batch (hm : r.Move h stage (some stage') h' new)
    (hephemeral : r.job.ephemeral = true) (hunsaved : stage.isSaving = false) :
    stage'.isSaving = false ∧
      ∀ b ∈ stage'.batch, b ∈ stage.batch ∨ b ∈ r.sourceHeld h' := by
  cases hm with
  | opening _ _ hafter _ =>
    refine ⟨Stage.isSaving_of_cursor? hafter, fun b hb => ?_⟩
    rw [Stage.batch_of_cursor? hafter] at hb
    contradiction
  | loaded | foundNothing | turned => exact ⟨rfl, fun b hb => by contradiction⟩
  | found hfetch =>
    refine ⟨rfl, fun b hb => .inr ?_⟩
    rw [Stage.batch, batch_of_fetch hfetch] at hb
    exact (List.mem_filter.1 (List.mem_of_mem_take hb)).1
  | copied _ =>
    refine ⟨by simp [copiedStage, hephemeral, Stage.isSaving], fun b hb => .inl ?_⟩
    rw [copiedStage_batch] at hb
    exact List.mem_cons_of_mem _ hb
  | saved _ => contradiction
  | rested _ hbatch hsaving =>
    refine ⟨hsaving, fun b hb => ?_⟩
    rw [hbatch] at hb
    contradiction

namespace Serves

lemma congr (hserves : r.Serves subjects h) (hsorted : (r.target h).streams.Sorted)
    (hsorted' : (r.target h').streams.Sorted)
    (hspec : ∀ name, (r.target h').spec? name = (r.target h).spec? name) :
    r.Serves subjects h' where
  routed subject hsubject name stream hroute := by
    obtain ⟨stream', hroute'⟩ := Store.route?_of_spec? hsorted hsorted' hspec hroute
    exact hserves.routed subject hsubject name stream' hroute'
  lasting spec hheld := by
    rw [hspec] at hheld
    exact hserves.lasting spec hheld

end Serves

namespace Confined

lemma alongside (hc : r.Confined subjects h stage) (ha : r.Alongside subjects h h') :
    r.Confined subjects h' stage where
  unsaved := hc.unsaved
  batch := hc.batch
  sent := ha.sent
  sourceSorted := by
    obtain ⟨run, hrun, -⟩ := ha.source
    rw [hrun]
    exact Store.sorted_serveAll hc.sourceSorted run
  targetSorted := by
    obtain ⟨run, hrun, -⟩ := ha.target
    rw [hrun]
    exact Store.sorted_serveAll hc.targetSorted run
  serves := ha.serves

/-- A step leaves the streams of both sides in order. -/
lemma sorted_step (hc : r.Confined subjects h stage) (hstep : r.step h t stage = (turn, h')) :
    (r.source h').streams.Sorted ∧ (r.target h').streams.Sorted := by
  have hsorted : ∀ url, (h.store url).streams.Sorted → (h'.store url).streams.Sorted := by
    intro url hs
    rcases step_request hstep with hsame | ⟨asked, q, -, hasked⟩
    · rwa [hsame]
    · by_cases hurl : asked = url
      · subst hurl
        rw [hasked.asked]
        exact Store.sorted_serve hs _ _
      · rwa [hasked.others url hurl]
  exact ⟨hsorted _ hc.sourceSorted, hsorted _ hc.targetSorted⟩

/-- What is published is on a subject that the source held. -/
lemma subjects_of_request? (hc : r.Confined subjects h stage) (hplain : r.job.subjectRule = none)
    {subject : String} {payload : Bytes}
    (hq : r.request? stage = some (url, .publish subject payload)) : subjects subject := by
  obtain ⟨m, hm, rfl⟩ := mem_batch_of_request? hq
  rw [ReplicationJob.targetSubject, hplain]
  exact hc.batch m hm

/-- What the source holds after a step it held before, unless the job publishes to its source. -/
lemma mem_sourceHeld_step (hc : r.Confined subjects h stage)
    (hstep : r.step h t stage = (turn, h')) {m : StoredMessage} (hm : m ∈ r.sourceHeld h') :
    m ∈ r.sourceHeld h ∨ 0 < m.sequence ∧
      ∃ url, r.request? stage = some (url, .publish m.subject m.payload) := by
  rcases step_request hstep with hsame | ⟨asked, q, hq, hasked⟩
  · rw [sourceHeld, source, hsame] at hm
    exact .inl hm
  · by_cases hurl : asked = r.job.sourceUrl
    · subst hurl
      rw [sourceHeld, source, hasked.asked] at hm
      rcases Store.mem_held_serve hc.sourceSorted hm with hold | ⟨hpos, -, rfl⟩
      · exact .inl hold
      · exact .inr ⟨hpos, _, hq⟩
    · rw [sourceHeld, source, hasked.others _ hurl] at hm
      exact .inl hm

lemma own (hc : r.Confined subjects h stage) (hephemeral : r.job.ephemeral = true)
    (hplain : r.job.subjectRule = none) (hstep : r.step h t stage = (turn, h'))
    (hafter : stageAfter stage turn = some stage') : r.Confined subjects h' stage' := by
  have hmove := move_of_step hstep fun hsaving => by simp [hc.unsaved] at hsaving
  rw [hafter] at hmove
  obtain ⟨hunsaved, hbatch⟩ := hmove.mem_batch hephemeral hc.unsaved
  obtain ⟨hsource, htarget⟩ := hc.sorted_step hstep
  have hsent : ∀ m ∈ r.sourceHeld h', subjects m.subject := by
    intro m hm
    rcases hc.mem_sourceHeld_step hstep hm with hold | ⟨-, url, hq⟩
    · exact hc.sent m hold
    · exact hc.subjects_of_request? hplain hq
  refine ⟨hunsaved, fun b hb => ?_, hsent, hsource, htarget,
    hc.serves.congr hc.targetSorted htarget fun name =>
      spec?_step hc.sourceSorted hc.targetSorted hstep _ name⟩
  rcases hbatch b hb with hb | hb
  · exact hc.batch b hb
  · exact hsent b hb

/-- A step changes what the target stream holds on a subject only by publishing there. -/
lemma heldOn_step (hc : r.Confined subjects h stage) (hstep : r.step h t stage = (turn, h'))
    {subject : String}
    (hother : ∀ url payload, r.request? stage ≠ some (url, .publish subject payload)) :
    (r.target h').heldOn r.job.targetStream subject
      = (r.target h).heldOn r.job.targetStream subject := by
  rcases step_request hstep with hsame | ⟨asked, q, hq, hasked⟩
  · rw [target, hsame]
    rfl
  · by_cases hurl : asked = r.job.targetUrl
    · subst hurl
      rw [target, hasked.asked]
      refine Store.heldOn_serve hc.targetSorted hc.serves.lasting fun payload hpublish => ?_
      subst hpublish
      exact hother _ payload hq
    · rw [target, hasked.others _ hurl]
      rfl

/-- What a run copies is then the newest message on its subject. -/
lemma newest?_publish {cursor number : Nat} {m : StoredMessage} {rest : List StoredMessage}
    (hc : r.Confined subjects h (.copying cursor (m :: rest)))
    (hplain : r.job.subjectRule = none) (hpublish : r.publish h m = (.ok number, h')) :
    (r.target h').newest? r.job.targetStream (r.job.targetSubject m.subject)
      = some { sequence := number
               subject := r.job.targetSubject m.subject
               payload := m.payload
               published := h.wallClock } := by
  have hanswer : ((r.target h).publish h.wallClock (r.job.targetSubject m.subject) m.payload).1
      = .ok number := congrArg Prod.fst hpublish
  have hafter : r.target h'
      = ((r.target h).publish h.wallClock (r.job.targetSubject m.subject) m.payload).2 := by
    obtain rfl : (r.publish h m).2 = h' := congrArg Prod.snd hpublish
    exact Host.store_withStore_self h r.job.targetUrl _
  have hq : r.request? (.copying cursor (m :: rest)) = some (r.job.targetUrl,
      .publish (r.job.targetSubject m.subject) m.payload) := rfl
  have hsubject := hc.subjects_of_request? hplain hq
  cases hroute : (r.target h).route? (r.job.targetSubject m.subject) with
  | none =>
    rw [Store.publish, hroute] at hanswer
    contradiction
  | some e =>
    obtain ⟨name, stream⟩ := e
    obtain rfl := hc.serves.routed _ hsubject name stream hroute
    rw [hafter]
    exact Store.newest?_publish hc.targetSorted hroute hc.serves.lasting hanswer

end Confined

/-! ### What the target shows -/

/-- The message copied last on a subject. -/
def lastOn (log : List Copied) (subject : String) : Option Copied :=
  (log.filter fun c => c.message.subject == subject).getLast?

lemma lastOn_concat_self (log : List Copied) (c : Copied) :
    lastOn (log ++ [c]) c.message.subject = some c := by
  simp [lastOn]

lemma lastOn_concat_of_ne {c : Copied} {subject : String} (hne : c.message.subject ≠ subject)
    (log : List Copied) : lastOn (log ++ [c]) subject = lastOn log subject := by
  simp [lastOn, hne]

/-- Where the source is not the target, a step leaves the source in order. -/
lemma orderly_step (hne : r.job.sourceUrl ≠ r.job.targetUrl) (hs : (r.source h).Sound)
    (hdated : (r.source h).Dated r.job.sourceStream) (hstep : r.step h t stage = (turn, h')) :
    Store.Orderly (r.source h) (r.source h') r.job.sourceStream := by
  rcases step_request hstep with hsame | ⟨asked, q, hq, hasked⟩
  · rw [source, source, hsame]
    exact .refl hdated
  · by_cases hurl : asked = r.job.sourceUrl
    · subst hurl
      have hlook : ∀ subject payload, q ≠ .publish subject payload := by
        rcases (request?_cases hq).2 with ⟨-, hlook⟩ | htarget
        · exact hlook
        · exact absurd htarget hne
      have hserved : r.source h' = (r.source h).serve h.wallClock q := hasked.asked
      rw [hserved]
      exact .serve hs hdated fun subject payload hpublish => absurd hpublish (hlook _ _)
    · have hsame : r.source h' = r.source h := hasked.others _ hurl
      rw [hsame]
      exact .refl hdated

/-- What holds of a run whose source is not its target: the message copied last on a subject is the
newest there on the target, and the source holds nothing older than a message that it has
dropped. -/
structure Mirrors (r : Copying) (subjects : String → Prop) (h : Host) (stage : Stage)
    (log : List Copied) : Prop extends Confined r subjects h stage where
  tracks : Tracks r 0 h (some stage) log
  begun : stage.cursor? = none → log = []
  positive : ∀ m ∈ r.sourceHeld h, 0 < m.sequence
  dated : (r.source h).Dated r.job.sourceStream
  ahead : ∀ b ∈ stage.batch,
    (r.source h).HoldsFrom r.job.sourceStream b.subject b.sequence
  behind : ∀ c ∈ log, subjects c.message.subject ∧
    (r.source h).HoldsFrom r.job.sourceStream c.message.subject c.sequence
  newest : ∀ subject c, lastOn log subject = some c →
    (r.target h).newest? r.job.targetStream subject = some c.message

lemma mem_of_lastOn {subject : String} {c : Copied} (h : lastOn log subject = some c) :
    c ∈ log ∧ c.message.subject = subject := by
  obtain ⟨hmem, hsubject⟩ := List.mem_filter.1 (List.mem_of_getLast? h)
  exact ⟨hmem, by simpa using hsubject⟩

namespace Mirrors

/-- What is behind stays behind. -/
lemma behind_later (hm : r.Mirrors subjects h stage log)
    (ho : Store.Orderly (r.source h) (r.source h') r.job.sourceStream) :
    ∀ c ∈ log, subjects c.message.subject ∧
      (r.source h').HoldsFrom r.job.sourceStream c.message.subject c.sequence := fun c hc =>
  ⟨(hm.behind c hc).1, (hm.behind c hc).2.orderly ho (hm.tracks.caughtUp.known c hc)⟩

lemma ahead_later (hm : r.Mirrors subjects h stage log)
    (ho : Store.Orderly (r.source h) (r.source h') r.job.sourceStream) :
    ∀ b ∈ stage.batch, (r.source h').HoldsFrom r.job.sourceStream b.subject b.sequence :=
  fun b hb => (hm.ahead b hb).orderly ho ((hm.tracks.stands _ rfl).pending.known b hb)

/-- Others do not matter, if they leave the subjects of the source alone on the target. -/
lemma alongside (hm : r.Mirrors subjects h stage log) (ha : r.Alongside subjects h h') :
    r.Mirrors subjects h' stage log := by
  obtain ⟨run, hrun, htime⟩ := ha.source
  have horderly : Store.Orderly (r.source h) (r.source h') r.job.sourceStream :=
    (Store.Orderly.serveAll hm.tracks.sound hm.dated htime).congr hrun
  refine ⟨hm.toConfined.alongside ha, hm.tracks.around ⟨run, hrun⟩, hm.begun, fun m hheld => ?_,
    horderly.dated, hm.ahead_later horderly, hm.behind_later horderly, fun subject c hlast => ?_⟩
  · rw [sourceHeld, Store.held_congr hrun] at hheld
    exact Store.sequence_pos_serveAll hm.sourceSorted hm.positive m hheld
  · obtain ⟨sent, hsent, hothers⟩ := ha.target
    obtain ⟨hc, rfl⟩ := mem_of_lastOn hlast
    have hlasting : ((r.target h).serveAll sent).Lasting r.job.targetStream := by
      intro spec hspec
      rw [Store.spec?, ← hsent] at hspec
      exact ha.serves.lasting spec hspec
    have hsame := Store.heldOn_serveAll hm.targetSorted hlasting fun e he payload hpublish =>
      hothers e he _ payload hpublish (hm.behind c hc).1
    rw [Store.newest?, Store.heldOn, Store.held_congr hsent]
    exact (congrArg List.getLast? hsame).trans (hm.newest _ c hlast)

/-- What a step copies becomes the newest message on its subject, and nothing else changes. -/
lemma newest_own (hm : r.Mirrors subjects h stage log) (hplain : r.job.subjectRule = none)
    (hstep : r.step h t stage = (turn, h')) (hmove : r.Move h stage (some stage') h' new) :
    ∀ subject c, lastOn (log ++ new) subject = some c →
      (r.target h').newest? r.job.targetStream subject = some c.message := by
  intro subject c hlast
  have hkept : (∀ url payload, r.request? stage ≠ some (url, .publish subject payload)) →
      lastOn log subject = some c →
      (r.target h').newest? r.job.targetStream subject = some c.message := by
    intro hother hlast
    rw [Store.newest?, hm.toConfined.heldOn_step hstep hother]
    exact hm.newest subject c hlast
  cases hmove with
  | @copied _ _ m _ _ _ hpublish =>
    by_cases hsubject : r.job.targetSubject m.subject = subject
    · subst hsubject
      rw [lastOn_concat_self] at hlast
      obtain rfl := Option.some.inj hlast
      exact hm.toConfined.newest?_publish hplain hpublish
    · rw [lastOn_concat_of_ne hsubject] at hlast
      refine hkept (fun url payload hq => hsubject ?_) hlast
      exact (Request.publish.inj (Prod.mk.inj (Option.some.inj hq)).2).1
  | opening _ hbefore _ _ =>
    rw [List.append_nil] at hlast
    refine hkept (fun url payload hq => ?_) hlast
    obtain ⟨m, hmem, -⟩ := mem_batch_of_request? hq
    rw [Stage.batch_of_cursor? hbefore] at hmem
    contradiction
  | loaded | foundNothing | found | turned | saved | rested =>
    rw [List.append_nil] at hlast
    exact hkept (by simp [request?]) hlast

/-- A step copies the next message at hand or nothing. -/
lemma carries_of_mem (hmove : r.Move h stage (some stage') h' new) :
    ∀ c ∈ new, ∃ m ∈ stage.batch, c.Carries r.job m := by
  intro c hc
  cases hmove with
  | copied _ =>
    obtain rfl := List.mem_singleton.1 hc
    exact ⟨_, List.mem_cons_self, rfl, rfl, rfl⟩
  | opening | loaded | foundNothing | found | turned | saved | rested => contradiction

/-- Before its first fetch a run has copied nothing. -/
lemma begun_own (hm : r.Mirrors subjects h stage log)
    (hmove : r.Move h stage (some stage') h' new) : stage'.cursor? = none → log ++ new = [] := by
  intro hcursor
  cases hmove with
  | opening _ hbefore _ _ => rw [List.append_nil, hm.begun hbefore]
  | copied _ => simp at hcursor
  | rested hsome _ _ => simp [hsome] at hcursor
  | loaded | foundNothing | found | turned | saved => contradiction

/-- **A run goes on as a mirror**, if its source is not its target. -/
theorem own (hm : r.Mirrors subjects h stage log) (hne : r.job.sourceUrl ≠ r.job.targetUrl)
    (hephemeral : r.job.ephemeral = true) (hplain : r.job.subjectRule = none)
    (hstep : r.step h t stage = (turn, h')) (hafter : stageAfter stage turn = some stage') :
    r.Mirrors subjects h' stage' (log ++ r.copied h stage) := by
  have hmove := move_of_step hstep fun hsaving => by simp [hm.unsaved] at hsaving
  rw [hafter] at hmove
  have horderly := orderly_step hne hm.tracks.sound hm.dated hstep
  have hconfined := hm.toConfined.own hephemeral hplain hstep hafter
  have hbatch := (hmove.mem_batch hephemeral hm.unsaved).2
  refine ⟨hconfined, hm.tracks.move hmove fun hloading => ?_, hm.begun_own hmove, fun m hheld => ?_,
    horderly.dated, fun b hb => ?_, fun c hc => ?_, hm.newest_own hplain hstep hmove⟩
  · subst hloading
    rw [startCursor, if_pos hephemeral, hm.begun rfl, lastCopied_nil]
  · rcases hm.toConfined.mem_sourceHeld_step hstep hheld with hold | ⟨hpos, -⟩
    · exact hm.positive m hold
    · exact hpos
  · rcases hbatch b hb with hold | hfetched
    · exact hm.ahead_later horderly b hold
    · exact .of_mem hfetched
  · rcases List.mem_append.1 hc with hc | hc
    · exact hm.behind_later horderly c hc
    · obtain ⟨m, hmem, hnumber, hsubject, -⟩ := carries_of_mem hmove c hc
      rw [ReplicationJob.targetSubject, hplain] at hsubject
      rw [hnumber, hsubject]
      exact ⟨hm.batch m hmem, hm.ahead_later horderly m hmem⟩

/-- Where everything that the source holds was copied, source and target show the same. -/
lemma agrees (hm : r.Mirrors subjects h stage log) (hplain : r.job.subjectRule = none)
    (hcarried : ∀ m ∈ r.sourceHeld h, 0 < m.sequence → ∃ c ∈ log, c.Carries r.job m)
    {subject : String} {m : StoredMessage}
    (hnewest : (r.source h).newest? r.job.sourceStream subject = some m) :
    ∃ m', (r.target h).newest? r.job.targetStream subject = some m' ∧ m'.payload = m.payload := by
  obtain ⟨hheld, hsubject⟩ := List.mem_filter.1 (List.mem_of_getLast? hnewest)
  have hsubject : m.subject = subject := by simpa using hsubject
  obtain ⟨c, hc, hnumber, hcarried, hpayload⟩ := hcarried m hheld (hm.positive m hheld)
  rw [ReplicationJob.targetSubject, hplain] at hcarried
  have hon : c ∈ log.filter fun a => a.message.subject == subject :=
    List.mem_filter.2 ⟨hc, by simp [hcarried, hsubject]⟩
  obtain ⟨last, hlast⟩ : ∃ last, lastOn log subject = some last :=
    ⟨_, List.getLast?_eq_some_getLast (List.ne_nil_of_mem hon)⟩
  obtain ⟨hmem, hlastsubject⟩ := mem_of_lastOn hlast
  refine ⟨last.message, hm.newest subject last hlast, ?_⟩
  have hle : m.sequence ≤ last.sequence := by
    have hincreasing := hm.tracks.caughtUp.increasing.filter fun a => a.message.subject == subject
    have hsplit := List.dropLast_append_getLast? last hlast
    rw [← hsplit] at hincreasing hon
    rcases List.mem_append.1 hon with hon | hon
    · rw [← hnumber]
      exact ((List.pairwise_append.1 hincreasing).2.2 c hon last (by simp)).le
    · rw [← List.mem_singleton.1 hon, hnumber]
  rcases Nat.lt_or_eq_of_le hle with hlt | heq
  · -- the message copied last would be held as well, and be newer than the newest
    obtain ⟨x, hx, hxsubject, hxnumber⟩ :=
      (hm.behind last hmem).2 m hheld (hsubject.trans hlastsubject.symm) hlt
    have hxon : x ∈ (r.source h).heldOn r.job.sourceStream subject :=
      List.mem_filter.2 ⟨hx, by simp [hxsubject, hlastsubject]⟩
    have hxle := Store.le_of_newest? hm.tracks.sound hnewest hxon
    rw [hxnumber] at hxle
    exact absurd hlt (Nat.not_lt.2 hxle)
  · have hsingle := hm.tracks.caughtUp.filter_eq_singleton hc
    have hboth : last ∈ log.filter fun a => a.sequence == c.sequence :=
      List.mem_filter.2 ⟨hmem, by simp [hnumber, heq]⟩
    rw [hsingle] at hboth
    rw [List.mem_singleton.1 hboth, hpayload]

end Mirrors

/-! ### Whole runs -/

/-- What a run keeps step by step, with others at work, holds as long as it goes on. -/
lemma runSteps_induction {others : Host → Host → Prop} {P : Host → Stage → List Copied → Prop}
    (hown : ∀ {h h' t stage turn stage' log}, P h stage log → r.step h t stage = (turn, h') →
      stageAfter stage turn = some stage' → P h' stage' (log ++ r.copied h stage))
    (hothers : ∀ {h h' stage log}, P h stage log → others h h' → P h' stage log)
    {w w' : Situation} (hrun : ReflTransGen (r.RunStep others) w w')
    (hstart : ∀ stage ∈ w.stage?, P w.host stage w.log) :
    ∀ stage ∈ w'.stage?, P w'.host stage w'.log := by
  induction hrun with
  | refl => exact hstart
  | tail _ hstep ih =>
    intro stage' hstage'
    cases hstep with
    | own hstep _ => exact hown (ih _ rfl) hstep hstage'
    | others h => exact hothers (ih stage' hstage') h

/-- The job that brings the configuration. -/
lemma job?_config (site backend directory : String) (credentials : ReplicationCredentials) :
    (ReplicationTopology.standard site backend directory credentials).job? "KV_CONFIG"
      = some
        { name := "KV_CONFIG"
          sourceStream := "KV_CONFIG"
          targetStream := "KV_CONFIG"
          sourceUrl := backend
          targetUrl := localBrokerUrl
          ephemeral := true
          direction := .backendToLocal } := rfl

/-- **The configuration comes to agree with the backend.**  Whenever a run of its job finds nothing
more to copy, the newest value on the target is the newest of the source, for every subject that
the source then holds.  Whatever a step of the run does, other subjects of the target stream stay
as they are, files are neither read nor written, and no stream is made anywhere. -/
theorem config_agrees {site backend directory : String} {credentials : ReplicationCredentials}
    (hjob : (ReplicationTopology.standard site backend directory credentials).job? "KV_CONFIG"
      = some r.job)
    {subjects : String → Prop} {h₀ : Host} {past : List (Nat × Request)} {w : Situation}
    (hsource : (r.source h₀).streams = (Store.serveAll {} past).streams)
    (htime : Store.RunInTime r.job.sourceStream {} past)
    (hsent : ∀ m ∈ r.sourceHeld h₀, subjects m.subject)
    (htarget : (r.target h₀).streams.Sorted) (hserves : r.Serves subjects h₀)
    (hrun : ReflTransGen (r.RunStep (r.Alongside subjects)) ⟨h₀, t, some .findingSource, []⟩ w) :
    (∀ h', r.FindsNothing w h' → ∀ subject m,
      (r.source h').newest? r.job.sourceStream subject = some m →
        ∃ m', (r.target h').newest? r.job.targetStream subject = some m' ∧
          m'.payload = m.payload) ∧
    ∀ stage ∈ w.stage?, ∀ turn h', r.step w.host w.token stage = (turn, h') →
      (∀ subject, ¬ subjects subject → (r.target h').heldOn r.job.targetStream subject
        = (r.target w.host).heldOn r.job.targetStream subject) ∧
      (∀ files, r.step (withFiles files w.host) w.token stage = (turn, withFiles files h')) ∧
      ∀ url name, (h'.store url).spec? name = (w.host.store url).spec? name := by
  rw [job?_config, Option.some.injEq] at hjob
  have hephemeral : r.job.ephemeral = true := by rw [← hjob]
  have hplain : r.job.subjectRule = none := by rw [← hjob]
  have hsound : (r.source h₀).Sound := (Store.Sound.empty.serveAll past).congr hsource
  have hstart : r.Confined subjects h₀ .findingSource :=
    ⟨rfl, by simp [Stage.batch], hsent, hsound.sorted, htarget, hserves⟩
  constructor
  · intro h' hnothing subject m hnewest
    by_cases hurl : r.job.sourceUrl = r.job.targetUrl
    · -- the source is the target
      have hsame : r.target h' = r.source h' := by rw [target, source, hurl]
      have hstream : r.job.targetStream = r.job.sourceStream := by rw [← hjob]
      exact ⟨m, by rw [hsame, hstream]; exact hnewest, rfl⟩
    · have hpast : Store.Orderly {} (Store.serveAll {} past) r.job.sourceStream :=
        .serveAll .empty (fun _ h => by contradiction) htime
      have hmirrors : r.Mirrors subjects h₀ .findingSource [] := by
        refine ⟨hstart, ⟨hsound, .nil _ _ _, fun stage hstage => ?_⟩, fun _ => rfl, fun m hm => ?_,
          (hpast.congr hsource).dated, by simp [Stage.batch], by simp, by simp [lastOn]⟩
        · obtain rfl := Option.some.inj hstage
          exact .of_batch_eq_nil (by simp [Stage.cursor?]) rfl rfl
        · rw [sourceHeld, Store.held_congr hsource] at hm
          exact Store.sequence_pos_serveAll Store.sorted_empty (by simp [Store.held, Keyed.get?])
            m hm
      have hall := runSteps_induction (fun hm hstep hafter =>
        Mirrors.own hm hurl hephemeral hplain hstep hafter) Mirrors.alongside hrun
        fun stage hstage => Option.some.inj hstage ▸ hmirrors
      obtain ⟨cursor, wake, hstage, hstep⟩ := hnothing
      have hidle := (hall _ hstage).own hurl hephemeral hplain hstep rfl
      have hnothing : r.copied w.host (.fetching cursor) = [] := rfl
      rw [hnothing, List.append_nil] at hidle
      refine hidle.agrees hplain (fun m hm hpos => ?_) hnewest
      have htracks : Tracks r 0 w.host w.stage? w.log := hstage ▸ (hall _ hstage).tracks
      exact htracks.carried ⟨cursor, wake, hstage, hstep⟩ hm hpos
  · intro stage hstage turn h' hstep
    have hconfined := runSteps_induction (fun hc hstep hafter =>
      Confined.own hc hephemeral hplain hstep hafter) Confined.alongside hrun
      (fun stage hstage => Option.some.inj hstage ▸ hstart) stage hstage
    refine ⟨fun subject hother => hconfined.heldOn_step hstep fun url payload hq => ?_,
      fun files => ?_, spec?_step hconfined.sourceSorted hconfined.targetSorted hstep⟩
    · exact hother (hconfined.subjects_of_request? hplain hq)
    · rw [step_withFiles hephemeral hconfined.unsaved, hstep]

/-- The job of a site for its configuration, paced so that opening a stream needs one look. -/
def configuring : Copying where
  job :=
    { name := "KV_CONFIG"
      sourceStream := "KV_CONFIG"
      targetStream := "KV_CONFIG"
      sourceUrl := "backend"
      targetUrl := localBrokerUrl
      ephemeral := true
      direction := .backendToLocal }
  topology := .standard "site" "backend" "state" ⟨"seed", "token", "edge"⟩

/-- Two values for a key of the backend, of which it keeps the second. -/
def configured : List (Nat × Request) :=
  [(1, .createBucket { name := "CONFIG" }), (2, .publish "$KV.CONFIG.a" [1]),
   (3, .publish "$KV.CONFIG.a" [2])]

/-- The node has other values for that key and for one of its own. -/
def configuringHost : Host where
  network :=
    [("backend", Store.serveAll {} configured),
     (localBrokerUrl, Store.serveAll {} [(1, .createBucket { name := "CONFIG" }),
      (2, .publish "$KV.CONFIG.a" [8]), (3, .publish "$KV.CONFIG.b" [9])])]
  wallClock := 4

/-- The second value is at hand. -/
def fetched : Situation :=
  configuring.advanceBy 6 ⟨configuringHost, 0, some .findingSource, []⟩

/-- Meanwhile the backend gets a third, and drops the second. -/
def reconfigured : Host :=
  (fetched.host.withStore "backend" fun s => s.publish 5 "$KV.CONFIG.a" [3]).2

/-- The run copies both. -/
def caughtUp : Situation :=
  configuring.advanceBy 5 ⟨reconfigured, 0, fetched.stage?, fetched.log⟩

/-- The node has the third value in the end, and still its own. -/
theorem config_agrees_caughtUp :
    let after := (configuring.step caughtUp.host caughtUp.token (.fetching 3)).2
    (∃ m, (configuring.target after).newest? "KV_CONFIG" "$KV.CONFIG.a" = some m ∧
      m.payload = [3]) ∧
    (configuring.target after).heldOn "KV_CONFIG" "$KV.CONFIG.b"
      = (configuring.target caughtUp.host).heldOn "KV_CONFIG" "$KV.CONFIG.b" := by
  let subjects : String → Prop := fun subject => subject = "$KV.CONFIG.a"
  have htime : Store.RunInTime "KV_CONFIG" {} configured :=
    Store.runInTime_of_sorted Store.sorted_empty (fun _ hm => by contradiction)
      (by decide : (0 :: configured.map Prod.fst).Pairwise (· ≤ ·))
  have hserves : ∀ h,
      ((configuring.target h).route? "$KV.CONFIG.a").map Prod.fst = some "KV_CONFIG" →
      (configuring.target h).spec? "KV_CONFIG"
        = some ({ name := "CONFIG" : BucketSpec }).backingStream →
      configuring.Serves subjects h := by
    intro h hroute hspec
    refine ⟨?_, fun spec hheld => ?_⟩
    · rintro subject rfl name stream hfound
      rw [hfound] at hroute
      exact Option.some.inj hroute
    · obtain rfl := Option.some.inj (hspec.symm.trans hheld)
      decide
  have hsorted : ∀ s : Store, (s.streams.Pairwise fun a b => a.1 < b.1) → s.streams.Sorted :=
    fun _ hs => hs
  have hothers : configuring.Alongside subjects fetched.host reconfigured :=
    { source := ⟨[(5, .publish "$KV.CONFIG.a" [3])], by decide +kernel,
        Store.runInTime_of_sorted (hsorted _ (by decide +kernel)) (by decide +kernel)
          (by decide : [4, 5].Pairwise (· ≤ ·))⟩
      sent := by decide +kernel
      target := ⟨[], by decide +kernel, by simp⟩
      serves := hserves _ (by decide +kernel) (by decide +kernel) }
  have hfirst : ReflTransGen (configuring.RunStep (configuring.Alongside subjects))
      ⟨configuringHost, 0, some .findingSource, []⟩ fetched :=
    runSteps_advanceBy 6 (by decide +kernel)
  have htoken : fetched.token = 0 := by decide +kernel
  have hmeanwhile : configuring.RunStep (configuring.Alongside subjects) fetched
      ⟨reconfigured, 0, fetched.stage?, fetched.log⟩ := by
    rw [← htoken]
    exact .others hothers
  have hlast : ReflTransGen (configuring.RunStep (configuring.Alongside subjects))
      ⟨reconfigured, 0, fetched.stage?, fetched.log⟩ caughtUp :=
    runSteps_advanceBy 5 (by decide +kernel)
  have hstage : caughtUp.stage? = some (.fetching 3) := by decide +kernel
  have hturn : (configuring.step caughtUp.host caughtUp.token (.fetching 3)).1
      = .next (.idle 3 250) := by decide +kernel
  obtain ⟨hagrees, hsteps⟩ := config_agrees (job?_config "site" "backend" "state"
    ⟨"seed", "token", "edge"⟩) (by decide +kernel) htime (by decide +kernel)
    (hsorted _ (by decide +kernel))
    (hserves _ (by decide +kernel) (by decide +kernel)) ((hfirst.tail hmeanwhile).trans hlast)
  have hnewest : (configuring.source
      (configuring.step caughtUp.host caughtUp.token (.fetching 3)).2).newest? "KV_CONFIG"
        "$KV.CONFIG.a" = some ⟨3, "$KV.CONFIG.a", [3], 5⟩ := by decide +kernel
  exact ⟨hagrees _ (findsNothing_of_step hstage hturn) _ _ hnewest,
    (hsteps _ hstage _ _ rfl).1 "$KV.CONFIG.b" (by decide)⟩

end EdgeNode.Copying
