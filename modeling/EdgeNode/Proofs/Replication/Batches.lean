import EdgeNode.Proofs.Replication.Moves
/-!
# Keeping up with a source

A run fetches what lies behind a message, batch after batch, while its source goes on: messages are
added behind all others, and any that it holds may be dropped.  `CaughtUp` says that everything the
source still holds up to the message copied last was copied, and `Pending` that a batch leaves
nothing out; both survive whatever becomes of the source.
-/

namespace EdgeNode

/-- Messages that were fetched from a stream and are still to be copied, behind a message. -/
structure Pending (s : Store) (name : String) (cursor : Nat) (batch : List StoredMessage) :
    Prop where
  increasing : batch.Pairwise fun a b => a.sequence < b.sequence
  behind : ∀ b ∈ batch, cursor < b.sequence
  known : ∀ b ∈ batch, b.sequence ≤ s.lastNumber name
  /-- Nothing that is held is left out. -/
  complete : ∀ b ∈ batch, ∀ m ∈ s.held name, cursor < m.sequence → m.sequence ≤ b.sequence →
    m ∈ batch

namespace Pending

variable {s s' : Store} {name : String} {cursor : Nat} {m : StoredMessage}
  {batch rest : List StoredMessage}

lemma nil (s : Store) (name : String) (cursor : Nat) : Pending s name cursor [] :=
  ⟨List.Pairwise.nil, by simp, by simp, by simp⟩

lemma later (h : Pending s name cursor batch) (hlater : s.Later s' name) :
    Pending s' name cursor batch where
  increasing := h.increasing
  behind := h.behind
  known b hb := (h.known b hb).trans hlater.last_le
  complete b hb m hm hcursor hle :=
    h.complete b hb m (hlater.kept m hm (hle.trans (h.known b hb))) hcursor hle

/-- A batch that was fetched leaves nothing out. -/
lemma of_fetch (hs : s.Sound) (cursor limit : Nat) :
    Pending s name cursor (((s.held name).filter fun m => m.sequence > cursor).take limit) := by
  have hincreasing := (hs.held_increasing name).filter fun m => decide (m.sequence > cursor)
  have hmem : ∀ b ∈ ((s.held name).filter fun m => m.sequence > cursor).take limit,
      b ∈ s.held name ∧ cursor < b.sequence := by
    intro b hb
    simpa using List.mem_filter.1 (List.mem_of_mem_take hb)
  refine ⟨hincreasing.sublist (List.take_sublist _ _), fun b hb => (hmem b hb).2,
    fun b hb => hs.le_lastNumber (hmem b hb).1, fun b hb m hm hcursor hle => ?_⟩
  have hfiltered : m ∈ (s.held name).filter fun m => m.sequence > cursor :=
    List.mem_filter.2 ⟨hm, by simpa using hcursor⟩
  rw [← List.take_append_drop limit ((s.held name).filter fun m => decide (m.sequence > cursor)),
    List.mem_append] at hfiltered
  rcases hfiltered with hfirst | hlast
  · exact hfirst
  · -- what was not taken lies behind all that was
    rw [← List.take_append_drop limit ((s.held name).filter fun m => decide (m.sequence > cursor)),
      List.pairwise_append] at hincreasing
    exact absurd (hincreasing.2.2 b hb m hlast) (Nat.not_lt.2 hle)

/-- The first message of a batch is the next one that is held. -/
lemma eq_head (h : Pending s name cursor (m :: rest)) {m' : StoredMessage}
    (hm' : m' ∈ s.held name) (hcursor : cursor < m'.sequence) (hle : m'.sequence ≤ m.sequence) :
    m' = m := by
  rcases List.mem_cons.1 (h.complete m List.mem_cons_self m' hm' hcursor hle) with heq | hrest
  · exact heq
  · exact absurd ((List.pairwise_cons.1 h.increasing).1 m' hrest) (Nat.not_lt.2 hle)

lemma tail (h : Pending s name cursor (m :: rest)) : Pending s name m.sequence rest where
  increasing := (List.pairwise_cons.1 h.increasing).2
  behind := (List.pairwise_cons.1 h.increasing).1
  known b hb := h.known b (List.mem_cons_of_mem _ hb)
  complete b hb m' hm' hcursor hle := by
    have hfirst : cursor < m'.sequence := (h.behind m List.mem_cons_self).trans hcursor
    rcases List.mem_cons.1 (h.complete b (List.mem_cons_of_mem _ hb) m' hm' hfirst hle) with
      rfl | hrest
    · exact absurd hcursor (Nat.lt_irrefl _)
    · exact hrest

end Pending

namespace Copying

/-- The number of the message copied last, or the one that all copying starts behind. -/
def lastCopied (c₀ : Nat) (log : List Copied) : Nat :=
  (log.getLast?.map Copied.sequence).getD c₀

/-- A message was copied: under its subject on the target and with its payload. -/
def Copied.Carries (j : ReplicationJob) (c : Copied) (m : StoredMessage) : Prop :=
  c.sequence = m.sequence ∧ c.message.subject = j.targetSubject m.subject ∧
    c.message.payload = m.payload

/-- What was copied since a message: in order, each message once, and everything that the source
still holds up to the message copied last. -/
structure CaughtUp (j : ReplicationJob) (s : Store) (c₀ : Nat) (log : List Copied) : Prop where
  increasing : log.Pairwise fun a b => a.sequence < b.sequence
  behind : ∀ c ∈ log, c₀ < c.sequence
  known : ∀ c ∈ log, c.sequence ≤ s.lastNumber j.sourceStream
  carried : ∀ m ∈ s.held j.sourceStream, c₀ < m.sequence → m.sequence ≤ lastCopied c₀ log →
    ∃ c ∈ log, c.Carries j m

@[simp] lemma lastCopied_nil (c₀ : Nat) : lastCopied c₀ [] = c₀ := rfl

@[simp] lemma lastCopied_concat (c₀ : Nat) (log : List Copied) (c : Copied) :
    lastCopied c₀ (log ++ [c]) = c.sequence := by
  simp [lastCopied]

lemma lastCopied_mem (c₀ : Nat) {log : List Copied} (h : log ≠ []) :
    ∃ c ∈ log, lastCopied c₀ log = c.sequence := by
  refine ⟨log.getLast h, List.getLast_mem h, ?_⟩
  rw [lastCopied, List.getLast?_eq_some_getLast h]
  rfl

namespace CaughtUp

variable {j : ReplicationJob} {s s' : Store} {c₀ : Nat} {log : List Copied} {c : Copied}

lemma nil (j : ReplicationJob) (s : Store) (c₀ : Nat) : CaughtUp j s c₀ [] where
  increasing := List.Pairwise.nil
  behind _ h := by contradiction
  known _ h := by contradiction
  carried m _ hbehind hle := absurd hbehind (Nat.not_lt.2 hle)

lemma lastCopied_le (h : CaughtUp j s c₀ log) (hsome : log ≠ []) :
    lastCopied c₀ log ≤ s.lastNumber j.sourceStream := by
  obtain ⟨c, hc, hlast⟩ := lastCopied_mem c₀ hsome
  rw [hlast]
  exact h.known c hc

lemma start_le_lastCopied (h : CaughtUp j s c₀ log) : c₀ ≤ lastCopied c₀ log := by
  by_cases hsome : log = []
  · rw [hsome, lastCopied_nil]
  · obtain ⟨c, hc, hlast⟩ := lastCopied_mem c₀ hsome
    rw [hlast]
    exact Nat.le_of_lt (h.behind c hc)

lemma le_lastCopied (h : CaughtUp j s c₀ log) (hc : c ∈ log) : c.sequence ≤ lastCopied c₀ log := by
  have hsome : log ≠ [] := List.ne_nil_of_mem hc
  have hsplit := List.dropLast_concat_getLast hsome
  have hincreasing := h.increasing
  rw [← hsplit] at hc hincreasing ⊢
  rw [lastCopied_concat]
  rcases List.mem_append.1 hc with hc | hc
  · exact Nat.le_of_lt ((List.pairwise_append.1 hincreasing).2.2 c hc _ (by simp))
  · rw [List.mem_singleton.1 hc]

lemma later (h : CaughtUp j s c₀ log) (hlater : s.Later s' j.sourceStream) :
    CaughtUp j s' c₀ log where
  increasing := h.increasing
  behind := h.behind
  known c hc := (h.known c hc).trans hlater.last_le
  carried m hm hbehind hle := by
    -- the last copied number was known before, so that the message was held before as well
    have hsome : log ≠ [] := by
      rintro rfl
      exact absurd hbehind (Nat.not_lt.2 hle)
    exact h.carried m (hlater.kept m hm (hle.trans (h.lastCopied_le hsome))) hbehind hle

/-- Copying the next message of a batch leaves nothing out. -/
lemma concat {m : StoredMessage} {rest : List StoredMessage} (h : CaughtUp j s c₀ log)
    (hpending : Pending s j.sourceStream (lastCopied c₀ log) (m :: rest)) (hc : c.Carries j m) :
    CaughtUp j s c₀ (log ++ [c]) where
  increasing := by
    refine List.pairwise_append.2 ⟨h.increasing, List.pairwise_singleton _ _, ?_⟩
    intro a ha b hb
    obtain rfl := List.mem_singleton.1 hb
    rw [hc.1]
    exact Nat.lt_of_le_of_lt (h.le_lastCopied ha) (hpending.behind m List.mem_cons_self)
  behind a ha := by
    rcases List.mem_append.1 ha with ha | ha
    · exact h.behind a ha
    · obtain rfl := List.mem_singleton.1 ha
      rw [hc.1]
      exact Nat.lt_of_le_of_lt h.start_le_lastCopied (hpending.behind m List.mem_cons_self)
  known a ha := by
    rcases List.mem_append.1 ha with ha | ha
    · exact h.known a ha
    · obtain rfl := List.mem_singleton.1 ha
      rw [hc.1]
      exact hpending.known m List.mem_cons_self
  carried m' hm' hbehind hle := by
    rw [lastCopied_concat, hc.1] at hle
    -- between the message copied last and the one copied now nothing is held
    by_cases hold : m'.sequence ≤ lastCopied c₀ log
    · obtain ⟨a, ha, hcarries⟩ := h.carried m' hm' hbehind hold
      exact ⟨a, List.mem_append_left _ ha, hcarries⟩
    · obtain rfl := hpending.eq_head hm' (Nat.lt_of_not_le hold) hle
      exact ⟨c, by simp, hc⟩

/-- No message was copied twice. -/
lemma filter_eq_singleton (h : CaughtUp j s c₀ log) (hc : c ∈ log) :
    (log.filter fun a => a.sequence == c.sequence) = [c] := by
  have hincreasing := h.increasing
  clear h
  induction log with
  | nil => contradiction
  | cons a log ih =>
    obtain ⟨hfirst, hrest⟩ := List.pairwise_cons.1 hincreasing
    rcases List.mem_cons.1 hc with rfl | hc
    · rw [List.filter_cons_of_pos (by simp)]
      refine congrArg (c :: ·) (List.filter_eq_nil_iff.2 fun b hb => ?_)
      simpa using (Nat.ne_of_lt (hfirst b hb)).symm
    · rw [List.filter_cons_of_neg (by simpa using Nat.ne_of_lt (hfirst c hc))]
      exact ih hc hrest

end CaughtUp

end Copying

end EdgeNode
