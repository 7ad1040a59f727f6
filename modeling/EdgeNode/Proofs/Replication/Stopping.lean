import EdgeNode.Proofs.Pool.Effects
import EdgeNode.Proofs.Replication.Resync
import Mathlib.Algebra.BigOperators.Group.Finset.Basic
import Mathlib.Algebra.Order.BigOperators.Group.Finset
/-!
# How a cancelled run ends

A run looks at its token in three places only: before and between attempts to open a stream, behind
a batch and while it is idle.  From wherever it stands when the token is cancelled it comes to one
of them soon.  `Copying.Closes` lists what a turn of a cancelled run can come to; along these turns
the fetches, the publications and the turns that a run has left shrink by what it spends.
-/

namespace EdgeNode.Copying

/-! ### Runs among others -/

/-- The situations of a run from its beginning on, turn by turn.  Between its turns others do
whatever they like to the host, to the source and the target as well, but a token that was cancelled
stays so. -/
structure Timeline (r : Copying) (w : ℕ → Situation) : Prop where
  begins : (w 0).stage? = some .findingSource
  goes (n : ℕ) : ∃ h, w (n + 1) = { r.advance (w n) with host := h }
  lasting (n : ℕ) : (w n).host.isCancelled (w n).token →
    (w (n + 1)).host.isCancelled (w (n + 1)).token

/-- How often a run at a stage asks its source for messages in the turn that comes.  The request of
the stage is the only one that this turn can make. -/
def fetches (r : Copying) (stage : Stage) : ℕ :=
  match r.request? stage with
  | some (_, .fetch ..) => 1
  | _ => 0

/-- How many messages a run at a stage publishes in the turn that comes, be they accepted or
refused. -/
def publications (r : Copying) (stage : Stage) : ℕ :=
  match r.request? stage with
  | some (_, .publish ..) => 1
  | _ => 0

/-- What a run spends, or has left, in a situation; nothing once it has ended. -/
def Situation.count (w : Situation) (amount : Stage → ℕ) : ℕ :=
  w.stage?.elim 0 amount

/-- What a run asks the source for behind a message. -/
def fetch (r : Copying) (h : Host) (cursor : ℕ) : Outcome StoreError (List StoredMessage) × Host :=
  h.withStore r.job.sourceUrl fun s => s.fetch h.wallClock r.job.sourceStream cursor batchSize

variable {r : Copying} {h : Host} {t : StopToken} {stage : Stage} {w : ℕ → Situation} {n : ℕ}

/-! ### The turns of a cancelled run -/

/-- What makes a run at a stage fail, and what it then ends with. -/
inductive Fails (r : Copying) (h : Host) : Stage → Outcome Error Unit → Prop
  /-- The source refuses a fetch. -/
  | fetchRefused {cursor : ℕ} {e : StoreError} (hfetch : (r.fetch h cursor).1 = .error e) :
    Fails r h (.fetching cursor) (.error (.replicationJob r.job.name e.message))
  /-- A fetch crashes. -/
  | fetchCrashed {cursor : ℕ} (hfetch : (r.fetch h cursor).1 = .crash) :
    Fails r h (.fetching cursor) .crash
  /-- The target refuses a message. -/
  | publishRefused {cursor : ℕ} {m : StoredMessage} {rest : List StoredMessage} {e : StoreError}
      (hpublish : (r.publish h m).1 = .error e) :
    Fails r h (.copying cursor (m :: rest)) (.error (.replicationJob r.job.name e.message))
  /-- A publication crashes. -/
  | publishCrashed {cursor : ℕ} {m : StoredMessage} {rest : List StoredMessage}
      (hpublish : (r.publish h m).1 = .crash) :
    Fails r h (.copying cursor (m :: rest)) .crash
  /-- The cursor cannot be written. -/
  | unsaved {cursor : ℕ} {rest : List StoredMessage} {e : Error}
      (hsave : (saveCursor h.files h.wallClock r.cursorFile cursor).1 = .error e) :
    Fails r h (.saving cursor rest) (.error e)

/-- What a turn of a cancelled run comes to. -/
inductive Closes (r : Copying) (h : Host) : Stage → Turn → Prop
  /-- It finds the broker of the source. -/
  | sourceFound {stage : Retry.Stage} : Closes r h .findingSource (.next (.openingSource stage))
  /-- It does not open the source. -/
  | sourceLeft {stage : Retry.Stage} : Closes r h (.openingSource stage) (.done (.ok ()))
  /-- It finds the broker of the target. -/
  | targetFound {stage : Retry.Stage} : Closes r h .findingTarget (.next (.openingTarget stage))
  /-- It does not open the target. -/
  | targetLeft {stage : Retry.Stage} : Closes r h (.openingTarget stage) (.done (.ok ()))
  /-- It reads the cursor. -/
  | loaded {cursor : ℕ} : Closes r h .loading (.next (.fetching cursor))
  /-- There is nothing to copy. -/
  | foundNothing {cursor wake : ℕ} : Closes r h (.fetching cursor) (.next (.idle cursor wake))
  /-- It has messages to copy. -/
  | found {cursor : ℕ} {batch : List StoredMessage} (hbatch : batch.length ≤ batchSize) :
    Closes r h (.fetching cursor) (.next (.copying cursor batch))
  /-- It copies a message. -/
  | copied {cursor : ℕ} {m : StoredMessage} {rest : List StoredMessage} :
    Closes r h (.copying cursor (m :: rest)) (.next (r.copiedStage m.sequence rest))
  /-- It records the message copied last. -/
  | saved {cursor : ℕ} {rest : List StoredMessage} :
    Closes r h (.saving cursor rest) (.next (.copying cursor rest))
  /-- It is done with a batch. -/
  | batchDone {cursor : ℕ} : Closes r h (.copying cursor []) (.done (.ok ()))
  /-- It is idle no longer. -/
  | roused {cursor wake : ℕ} : Closes r h (.idle cursor wake) (.done (.ok ()))
  /-- It fails. -/
  | failed {stage : Stage} {outcome : Outcome Error Unit} (hfails : r.Fails h stage outcome) :
    Closes r h stage (.done outcome)

lemma find_network {url name : String} (hnetwork : r.framework = .network) (hurl : url ≠ "")
    (opening : Retry.Stage → Stage) :
    r.find url name opening = .next (opening (.start r.retry)) := by
  have hconnector : Framework.connector .network url name = .ok () :=
    if_neg (by simpa using hurl)
  rw [find, hnetwork, hconnector]

/-- No attempt to open a stream follows cancellation. -/
lemma openStream_cancelled (hcancelled : h.isCancelled t) {url name stream : String}
    {opening : Retry.Stage → Stage} {opened : Stage} (stage : Retry.Stage) :
    r.openStream h t url name stream opening opened stage = (.done (.ok ()), h) := by
  rw [openStream, hcancelled]
  cases stage <;> rfl

/-- To be unable to write the cursor is not to be cancelled. -/
lemma finish_of_saveCursor {f : Files} {now cursor : ℕ} {path : String} {e : Error}
    (hsave : (saveCursor f now path cursor).1 = .error e) :
    finish (.error e) = .done (.error e) := by
  have hparent : ∀ e', (f.createParent path).1 = .error e' → ∃ dir cause, e' = .io dir cause := by
    intro e' hrefused
    unfold Files.createParent at hrefused
    split at hrefused
    · simp at hrefused
    · split at hrefused
      · simp at hrefused
      · exact ⟨_, _, (Except.error.inj hrefused).symm⟩
  obtain ⟨path', cause, rfl⟩ : ∃ path' cause, e = .io path' cause := by
    unfold saveCursor at hsave
    split at hsave
    · next hrefused => exact hparent e (by rw [hrefused]; exact hsave)
    · split at hsave
      · simp at hsave
      · exact ⟨_, _, (Except.error.inj hsave).symm⟩
  rfl

lemma closes_fetching (cursor : ℕ) :
    r.Closes h (.fetching cursor) (r.step h t (.fetching cursor)).1 := by
  have hlength : ∀ batch, (r.fetch h cursor).1 = .ok batch → batch.length ≤ batchSize := by
    intro batch hfetch
    have hanswer : r.fetch h cursor = (.ok batch, (r.fetch h cursor).2) := Prod.ext hfetch rfl
    rw [batch_of_fetch hanswer]
    exact List.length_take_le _ _
  rw [step]
  split
  · exact .foundNothing
  · next hfetch => exact .found (hlength _ (congrArg Prod.fst hfetch))
  · next hfetch => exact .failed (.fetchRefused (congrArg Prod.fst hfetch))
  · next hfetch => exact .failed (.fetchCrashed (congrArg Prod.fst hfetch))

lemma closes_publishing (cursor : ℕ) (m : StoredMessage) (rest : List StoredMessage) :
    r.Closes h (.copying cursor (m :: rest)) (r.step h t (.copying cursor (m :: rest))).1 := by
  rw [step]
  split
  · have hcopied : r.Closes h (.copying cursor (m :: rest))
        (.next (r.copiedStage m.sequence rest)) := .copied
    rw [copiedStage] at hcopied
    split
    · next hephemeral => rwa [if_pos hephemeral] at hcopied
    · next hdurable => rwa [if_neg hdurable] at hcopied
  · next hpublish => exact .failed (.publishRefused (congrArg Prod.fst hpublish))
  · next hpublish => exact .failed (.publishCrashed (congrArg Prod.fst hpublish))

lemma closes_saving (cursor : ℕ) (rest : List StoredMessage) :
    r.Closes h (.saving cursor rest) (r.step h t (.saving cursor rest)).1 := by
  rw [step]
  split
  · exact .saved
  · next hsave =>
    have hunsaved := congrArg Prod.fst hsave
    show r.Closes h (.saving cursor rest) (finish _)
    rw [finish_of_saveCursor hunsaved]
    exact .failed (.unsaved hunsaved)

/-- **Every turn of a cancelled run is one of those that close it**, if its brokers are found. -/
theorem closes_of_cancelled (hnetwork : r.framework = .network) (hsource : r.job.sourceUrl ≠ "")
    (htarget : r.job.targetUrl ≠ "") (hcancelled : h.isCancelled t) (stage : Stage) :
    r.Closes h stage (r.step h t stage).1 := by
  cases stage with
  | findingSource =>
    rw [step, find_network hnetwork hsource]
    exact .sourceFound
  | openingSource stage =>
    rw [step, openStream_cancelled hcancelled]
    exact .sourceLeft
  | findingTarget =>
    rw [step, find_network hnetwork htarget]
    exact .targetFound
  | openingTarget stage =>
    rw [step, openStream_cancelled hcancelled]
    exact .targetLeft
  | loading =>
    rw [step]
    split <;> exact .loaded
  | fetching cursor => exact closes_fetching cursor
  | copying cursor batch =>
    cases batch with
    | nil =>
      rw [step, if_pos hcancelled]
      exact .batchDone
    | cons m rest => exact closes_publishing cursor m rest
  | saving cursor rest => exact closes_saving cursor rest
  | idle cursor wake =>
    rw [step, Host.pause, if_pos hcancelled]
    exact .roused

lemma Closes.outcome {outcome : Outcome Error Unit} (hcloses : r.Closes h stage (.done outcome)) :
    outcome = .ok () ∨ r.Fails h stage outcome := by
  cases hcloses with
  | sourceLeft | targetLeft | batchDone | roused => exact .inl rfl
  | failed hfails => exact .inr hfails

/-! ### What a cancelled run has left -/

/-- The fetches that a cancelled run has left. -/
def Stage.fetchesLeft : Stage → ℕ
  | .loading | .fetching _ => 1
  | _ => 0

/-- The publications that a cancelled run has left. -/
def Stage.publicationsLeft : Stage → ℕ
  | .loading | .fetching _ => batchSize
  | stage => stage.batch.length

/-- The turns that a cancelled run has left. -/
def Stage.turnsLeft : Stage → ℕ
  | .findingSource | .findingTarget => 2
  | .openingSource _ | .openingTarget _ | .idle .. => 1
  | .loading => 2 * batchSize + 3
  | .fetching _ => 2 * batchSize + 2
  | .copying _ batch => 2 * batch.length + 1
  | .saving _ batch => 2 * batch.length + 2

/-- Whatever closes a run, it spends in a turn no more than it has, and has the rest left. -/
def Affords (r : Copying) (cost left : Stage → ℕ) : Prop :=
  ∀ ⦃h : Host⦄ ⦃stage : Stage⦄ ⦃turn : Turn⦄, r.Closes h stage turn →
    cost stage + (stageAfter stage turn).elim 0 left ≤ left stage

lemma copiedStage_fetchesLeft (cursor : ℕ) (rest : List StoredMessage) :
    (r.copiedStage cursor rest).fetchesLeft = 0 := by
  rw [copiedStage]
  split <;> rfl

lemma copiedStage_publicationsLeft (cursor : ℕ) (rest : List StoredMessage) :
    (r.copiedStage cursor rest).publicationsLeft = rest.length := by
  rw [copiedStage]
  split <;> rfl

lemma copiedStage_turnsLeft_le (cursor : ℕ) (rest : List StoredMessage) :
    (r.copiedStage cursor rest).turnsLeft ≤ 2 * rest.length + 2 := by
  rw [copiedStage]
  split
  · exact Nat.le_succ _
  · exact Nat.le_refl _

lemma affords_fetches : r.Affords r.fetches Stage.fetchesLeft := by
  intro h stage turn hcloses
  cases hcloses with
  | copied => simp [stageAfter, fetches, request?, copiedStage_fetchesLeft]
  | failed hfails => cases hfails <;> simp [stageAfter, fetches, request?, Stage.fetchesLeft]
  | _ => simp [stageAfter, fetches, request?, Stage.fetchesLeft]

lemma affords_publications : r.Affords r.publications Stage.publicationsLeft := by
  intro h stage turn hcloses
  cases hcloses with
  | found hbatch =>
    show 0 + _ ≤ batchSize
    rw [Nat.zero_add]
    exact hbatch
  | @copied _ m rest =>
    show 1 + (r.copiedStage m.sequence rest).publicationsLeft ≤ (m :: rest).length
    rw [copiedStage_publicationsLeft, List.length_cons, Nat.add_comm]
  | failed hfails =>
    cases hfails <;> simp [stageAfter, publications, request?, Stage.publicationsLeft, Stage.batch]
  | _ => simp [stageAfter, publications, request?, Stage.publicationsLeft, Stage.batch]

lemma affords_turns : r.Affords (fun _ => 1) Stage.turnsLeft := by
  intro h stage turn hcloses
  cases hcloses with
  | found hbatch =>
    show 1 + (2 * _ + 1) ≤ 2 * batchSize + 2
    omega
  | @copied _ m rest =>
    have hle := r.copiedStage_turnsLeft_le m.sequence rest
    show 1 + (r.copiedStage m.sequence rest).turnsLeft ≤ 2 * (rest.length + 1) + 1
    omega
  | failed hfails => cases hfails <;> simp [stageAfter, Stage.turnsLeft]
  | _ => simp [stageAfter, Stage.turnsLeft] <;> omega

/-! ### All of its turns -/

/-- Nothing at hand is more than a batch. -/
lemma Move.batch_length_le {h' : Host} {stage? : Option Stage} {new : List Copied}
    (hm : r.Move h stage stage? h' new) (hbatch : stage.batch.length ≤ batchSize) :
    ∀ stage' ∈ stage?, stage'.batch.length ≤ batchSize := by
  intro stage' hstage'
  cases hm with
  | ended => contradiction
  | opening _ _ hafter _ =>
    obtain rfl := Option.some.inj hstage'
    rw [Stage.batch_of_cursor? hafter]
    exact Nat.zero_le _
  | loaded | foundNothing | turned =>
    obtain rfl := Option.some.inj hstage'
    exact Nat.zero_le _
  | found hfetch =>
    obtain rfl := Option.some.inj hstage'
    show List.length _ ≤ batchSize
    rw [batch_of_fetch hfetch]
    exact List.length_take_le _ _
  | copied _ =>
    obtain rfl := Option.some.inj hstage'
    rw [copiedStage_batch]
    exact Nat.le_of_succ_le hbatch
  | saved _ =>
    obtain rfl := Option.some.inj hstage'
    exact hbatch
  | rested _ hnone _ =>
    obtain rfl := Option.some.inj hstage'
    rw [hnone]
    exact Nat.zero_le _

lemma length_copied_le (h : Host) (stage : Stage) :
    (r.copied h stage).length ≤ r.publications stage := by
  unfold copied
  split
  · rw [List.length_map, Option.length_toList]
    show _ ≤ 1
    split <;> omega
  · exact Nat.zero_le _

lemma Stage.publicationsLeft_le (hbatch : stage.batch.length ≤ batchSize) :
    stage.publicationsLeft ≤ batchSize := by
  cases stage <;> first | exact hbatch | exact Nat.le_refl _

lemma Stage.fetchesLeft_le (stage : Stage) : stage.fetchesLeft ≤ 1 := by
  cases stage <;> simp [fetchesLeft]

lemma Stage.turnsLeft_le (hbatch : stage.batch.length ≤ batchSize) :
    stage.turnsLeft ≤ 2 * batchSize + 3 := by
  cases stage <;> simp only [turnsLeft, batch] at hbatch ⊢ <;> omega

lemma Situation.count_fetchesLeft_le (w : Situation) : w.count Stage.fetchesLeft ≤ 1 := by
  rw [count]
  cases w.stage? with
  | none => exact Nat.zero_le _
  | some stage => exact stage.fetchesLeft_le

namespace Timeline

/-- What the next turn comes to. -/
lemma stage?_succ (hw : r.Timeline w) (hstage : (w n).stage? = some stage) :
    (w (n + 1)).stage? = stageAfter stage (r.step (w n).host (w n).token stage).1 := by
  obtain ⟨h, hnext⟩ := hw.goes n
  rw [hnext]
  simp only [advance, hstage]

lemma stage?_succ_of_ended (hw : r.Timeline w) (hended : (w n).stage? = none) :
    (w (n + 1)).stage? = none := by
  obtain ⟨h, hnext⟩ := hw.goes n
  rw [hnext]
  simp only [advance, hended]

/-- What the target accepts in a turn was published in it. -/
lemma length_log_succ_le (hw : r.Timeline w) (n : ℕ) :
    (w (n + 1)).log.length ≤ (w n).log.length + (w n).count r.publications := by
  obtain ⟨h, hnext⟩ := hw.goes n
  rw [hnext, Situation.count]
  cases hstage : (w n).stage? with
  | none =>
    simp only [advance, hstage]
    exact Nat.le_add_right _ _
  | some stage =>
    simp only [advance, hstage, List.length_append]
    exact Nat.add_le_add_left (length_copied_le _ stage) _

lemma batch_length_le (hw : r.Timeline w) (n : ℕ) :
    ∀ stage ∈ (w n).stage?, stage.batch.length ≤ batchSize := by
  induction n with
  | zero =>
    rw [hw.begins]
    rintro stage ⟨⟩
    exact Nat.zero_le _
  | succ n ih =>
    intro stage' hstage'
    cases hstage : (w n).stage? with
    | none => simp [hw.stage?_succ_of_ended hstage] at hstage'
    | some stage =>
      rw [hw.stage?_succ hstage] at hstage'
      have hgoes : (stageAfter stage (r.step (w n).host (w n).token stage).1).isSome :=
        Option.isSome_of_mem hstage'
      exact (move_of_step rfl fun _ => hgoes).batch_length_le (ih _ hstage) _ hstage'

lemma count_publicationsLeft_le (hw : r.Timeline w) (n : ℕ) :
    (w n).count Stage.publicationsLeft ≤ batchSize := by
  rw [Situation.count]
  cases hstage : (w n).stage? with
  | none => exact Nat.zero_le _
  | some stage => exact Stage.publicationsLeft_le (hw.batch_length_le n stage hstage)

lemma isCancelled_add (hw : r.Timeline w) (hcancelled : (w n).host.isCancelled (w n).token)
    (k : ℕ) : (w (n + k)).host.isCancelled (w (n + k)).token := by
  induction k with
  | zero => exact hcancelled
  | succ k ih => exact hw.lasting _ ih

section

variable (hnetwork : r.framework = .network) (hsource : r.job.sourceUrl ≠ "")
  (htarget : r.job.targetUrl ≠ "") (hw : r.Timeline w)
  (hcancelled : (w n).host.isCancelled (w n).token)

include hnetwork hsource htarget hw hcancelled

/-- What a cancelled run spends in a turn it has not left afterwards. -/
lemma count_add_count_succ_le {cost left : Stage → ℕ} (haffords : r.Affords cost left) :
    (w n).count cost + (w (n + 1)).count left ≤ (w n).count left := by
  rw [Situation.count, Situation.count, Situation.count]
  cases hstage : (w n).stage? with
  | none =>
    rw [hw.stage?_succ_of_ended hstage]
    exact Nat.le_refl _
  | some stage =>
    rw [hw.stage?_succ hstage]
    exact haffords (closes_of_cancelled hnetwork hsource htarget hcancelled stage)

/-- A cancelled run spends no more than it has left. -/
lemma sum_count_le {cost left : Stage → ℕ} (haffords : r.Affords cost left) (k : ℕ) :
    ∑ i ∈ Finset.range k, (w (n + i)).count cost ≤ (w n).count left := by
  have hrest : ∑ i ∈ Finset.range k, (w (n + i)).count cost + (w (n + k)).count left
      ≤ (w n).count left := by
    induction k with
    | zero => simp
    | succ k ih =>
      have hturn : (w (n + k)).count cost + (w (n + k + 1)).count left ≤ (w (n + k)).count left :=
        count_add_count_succ_le hnetwork hsource htarget hw (hw.isCancelled_add hcancelled k)
          haffords
      rw [Finset.sum_range_succ, ← Nat.add_assoc]
      omega
  exact Nat.le_of_add_right_le hrest

/-- A cancelled run has ended before its turns are used up. -/
lemma exists_ended : ∃ k ≤ 2 * batchSize + 3, (w (n + k)).stage? = none := by
  by_contra hgoing
  push Not at hgoing
  have hturns := sum_count_le hnetwork hsource htarget hw hcancelled affords_turns
    (2 * batchSize + 4)
  have hones : ∀ i ∈ Finset.range (2 * batchSize + 4), (w (n + i)).count (fun _ => 1) = 1 := by
    intro i hi
    obtain ⟨stage, hstage⟩ := Option.ne_none_iff_exists'.1
      (hgoing i (Nat.le_of_lt_succ (Finset.mem_range.1 hi)))
    rw [Situation.count, hstage]
    rfl
  obtain ⟨stage, hstage⟩ := Option.ne_none_iff_exists'.1 (hgoing 0 (Nat.zero_le _))
  have hleft := Stage.turnsLeft_le (hw.batch_length_le n stage hstage)
  rw [Finset.sum_congr rfl hones, ← Finset.card_eq_sum_ones, Finset.card_range, Situation.count,
    show (w n).stage? = some stage from hstage] at hturns
  exact absurd (hturns.trans hleft) (by omega)

/-- The last turn of a cancelled run, if it had not ended before. -/
lemma exists_last (hgoing : (w n).stage?.isSome) :
    ∃ last stage outcome, n ≤ last ∧ last < n + (2 * batchSize + 3) ∧
      (w last).stage? = some stage ∧
      (r.step (w last).host (w last).token stage).1 = .done outcome := by
  have hexists : ∃ k, (w (n + k)).stage? = none :=
    (exists_ended hnetwork hsource htarget hw hcancelled).imp fun _ h => h.2
  obtain ⟨k, hk, hended⟩ := exists_ended hnetwork hsource htarget hw hcancelled
  have hfirst := Nat.find_spec hexists
  have hbound : Nat.find hexists ≤ k := Nat.find_min' hexists hended
  cases hfound : Nat.find hexists with
  | zero =>
    rw [hfound, Nat.add_zero] at hfirst
    simp [hfirst] at hgoing
  | succ last =>
    have hbefore : (w (n + last)).stage? ≠ none := Nat.find_min hexists (by omega)
    obtain ⟨stage, hstage⟩ := Option.ne_none_iff_exists'.1 hbefore
    rw [hfound, ← Nat.add_assoc, hw.stage?_succ hstage] at hfirst
    refine ⟨n + last, stage, ?_⟩
    cases hturn : (r.step (w (n + last)).host (w (n + last)).token stage).1 with
    | next stage' => simp [hturn, stageAfter] at hfirst
    | wait wake => simp [hturn, stageAfter] at hfirst
    | done outcome => exact ⟨outcome, by omega, by omega, hstage, rfl⟩

/-- **The target of a cancelled run accepts a batch more at most.** -/
theorem length_log_le (k : ℕ) : (w (n + k)).log.length ≤ (w n).log.length + batchSize := by
  have hspent : (w (n + k)).log.length ≤ (w n).log.length
      + ∑ i ∈ Finset.range k, (w (n + i)).count r.publications := by
    clear hcancelled
    induction k with
    | zero => exact Nat.le_refl _
    | succ k ih =>
      have hturn : (w (n + k + 1)).log.length ≤ (w (n + k)).log.length + _ :=
        hw.length_log_succ_le (n + k)
      rw [Finset.sum_range_succ, ← Nat.add_assoc, ← Nat.add_assoc]
      omega
  have hsum := sum_count_le hnetwork hsource htarget hw hcancelled affords_publications k
  have hleft := hw.count_publicationsLeft_le n
  omega

end

end Timeline

/-- **Cancellation bounds a run.**  Whatever its source and its target hold and whatever others do
to them, at whichever of its turns the token of a run is found cancelled, from that turn on the run
fetches once at most and publishes a batch at most, and, if it had not ended before, it ends: well,
unless the fetch, one of the publications or a write of the cursor fails. -/
theorem ends_after_cancellation (hnetwork : r.framework = .network)
    (hsource : r.job.sourceUrl ≠ "") (htarget : r.job.targetUrl ≠ "") (hw : r.Timeline w)
    (hcancelled : (w n).host.isCancelled (w n).token) :
    (∀ k, ∑ i ∈ Finset.range k, (w (n + i)).count r.fetches ≤ 1) ∧
      (∀ k, ∑ i ∈ Finset.range k, (w (n + i)).count r.publications ≤ batchSize) ∧
      ((w n).stage?.isSome → ∃ last stage outcome, n ≤ last ∧ last < n + (2 * batchSize + 3) ∧
        (w last).stage? = some stage ∧
        (r.step (w last).host (w last).token stage).1 = .done outcome ∧
        (outcome = .ok () ∨ r.Fails (w last).host stage outcome)) := by
  refine ⟨fun k => ?_, fun k => ?_, fun hgoing => ?_⟩
  · exact (hw.sum_count_le hnetwork hsource htarget hcancelled affords_fetches k).trans
      (w n).count_fetchesLeft_le
  · exact (hw.sum_count_le hnetwork hsource htarget hcancelled affords_publications k).trans
      (hw.count_publicationsLeft_le n)
  · obtain ⟨last, stage, outcome, hle, hlt, hstage, hdone⟩ :=
      hw.exists_last hnetwork hsource htarget hcancelled hgoing
    have hstill : (w last).host.isCancelled (w last).token := by
      have hlater := hw.isCancelled_add hcancelled (last - n)
      rwa [Nat.add_sub_cancel' hle] at hlater
    have hcloses := closes_of_cancelled hnetwork hsource htarget hstill stage
    rw [hdone] at hcloses
    exact ⟨last, stage, outcome, hle, hlt, hstage, hdone, hcloses.outcome⟩

/-- What others do before each turn of a run that begins in a situation. -/
def among (r : Copying) (others : ℕ → Host → Host) (w₀ : Situation) : ℕ → Situation
  | 0 => w₀
  | n + 1 =>
    let w := r.advance (r.among others w₀ n)
    { w with host := others n w.host }

lemma advance_isCancelled {v : Situation} (hcancelled : v.host.isCancelled v.token) :
    (r.advance v).host.isCancelled (r.advance v).token := by
  obtain ⟨host, token, stage?, log⟩ := v
  cases stage? with
  | none => exact hcancelled
  | some stage =>
    rw [advance_some, Host.isCancelled]
    show (r.step host token stage).2.cancelled.contains token
    rw [(r.affected_step host token stage).cancelled_eq]
    exact hcancelled

/-- The situations of a run among others, if they let cancelled tokens be, are a timeline. -/
lemma timeline_among {others : ℕ → Host → Host} {w₀ : Situation}
    (hbegins : w₀.stage? = some .findingSource)
    (hlasting : ∀ n h t, h.isCancelled t → (others n h).isCancelled t) :
    r.Timeline (r.among others w₀) where
  begins := hbegins
  goes _ := ⟨_, rfl⟩
  lasting n hcancelled := hlasting n _ _ (advance_isCancelled hcancelled)

/-- A submission arrives before every turn, and before the sixth the token is cancelled. -/
def crowding (n : ℕ) (h : Host) : Host :=
  let h := (h.withStore "local" fun s => s.publish (10 + n) "in.c" [3]).2
  if n = 4 then h.cancel 0 else h

/-- A run whose source is never idle, cancelled when it is about to fetch. -/
def crowded : ℕ → Situation :=
  submitting.among crowding ⟨submittingHost {} twoSubmissions, 0, some .findingSource, []⟩

lemma timeline_crowded : submitting.Timeline crowded := by
  refine timeline_among rfl fun n h t hcancelled => ?_
  have hpublished : (h.withStore "local" fun s => s.publish (10 + n) "in.c" [3]).2.isCancelled t :=
    hcancelled
  rw [crowding]
  split
  · show List.contains (0 :: _) t = true
    rw [List.contains_cons, Bool.or_eq_true]
    exact .inr hpublished
  · exact hpublished

/-- The seven messages that are there by then are copied, and none of those that come later. -/
theorem ends_after_cancellation_crowded :
    (crowded 5).stage? = some (.fetching 0) ∧
      ∑ i ∈ Finset.range 20, (crowded (5 + i)).count submitting.publications = 7 ∧
      (∀ k, ∑ i ∈ Finset.range k, (crowded (5 + i)).count submitting.fetches ≤ 1) ∧
      (∀ k, ∑ i ∈ Finset.range k, (crowded (5 + i)).count submitting.publications ≤ 100) ∧
      ∃ last stage outcome, 5 ≤ last ∧ last < 5 + 203 ∧ (crowded last).stage? = some stage ∧
        (submitting.step (crowded last).host (crowded last).token stage).1 = .done outcome ∧
        (outcome = .ok () ∨ submitting.Fails (crowded last).host stage outcome) := by
  have hcancelled : (crowded 5).host.isCancelled (crowded 5).token := by decide +kernel
  have hstage : (crowded 5).stage? = some (.fetching 0) := by decide +kernel
  obtain ⟨hfetches, hpublications, hends⟩ :=
    ends_after_cancellation rfl (by decide) (by decide) timeline_crowded hcancelled
  exact ⟨hstage, by decide +kernel, hfetches, hpublications, hends (by rw [hstage]; rfl)⟩

end EdgeNode.Copying
