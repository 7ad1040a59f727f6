import EdgeNode.Proofs.Replication.Validation
import EdgeNode.Proofs.Store.Captured
import EdgeNode.Topology
import Mathlib.Data.Set.Function
/-!
# What rules make of subjects

A rule takes its prefix off the subjects that start with it and puts another text in front of all.
So it makes the same of a subject and of the one that goes on with it behind the prefix, and of no
other two (`apply_eq_apply_iff`).  The jobs of a site that share a stream of the backend have rules
that never make the same.

What a rule of an accepted topology puts in front ends with a dot; nothing else is asked of it, and
nothing of the prefix.  `ReplicationTopology.wellFormed_kept_iff` says which accepted rules keep
subjects well formed: those that put whole tokens in front and whose prefix is not well formed
itself, such as the prefixes of a site, which end with a dot.
-/

namespace EdgeNode

open Subject (WellFormed covers)

/-! ### One rule -/

namespace SubjectRule

variable {r : SubjectRule} {s t : String}

lemma stripStart_append (start cs : List Char) : stripStart start (start ++ cs) = cs := by
  rw [stripStart, if_pos (List.isPrefixOf_iff_prefix.2 (List.prefix_append start cs)),
    List.drop_left]

lemma stripStart_eq_self {start cs : List Char} (h : ¬ start <+: cs) :
    stripStart start cs = cs := by
  rw [stripStart, if_neg (mt List.isPrefixOf_iff_prefix.1 h)]

lemma apply_append (r : SubjectRule) (rest : String) :
    r.apply (r.removePrefix ++ rest) = r.targetPrefix ++ rest := by
  rw [apply, String.toList_append, stripStart_append, String.ofList_toList]

lemma apply_eq_append (h : ¬ r.removePrefix.toList <+: s.toList) :
    r.apply s = r.targetPrefix ++ s := by
  rw [apply, stripStart_eq_self h, String.ofList_toList]

/-- A subject goes on from the prefix or does not start with it. -/
lemma begins_or_not (r : SubjectRule) (s : String) :
    (∃ rest, s = r.removePrefix ++ rest) ∨ ¬ r.removePrefix.toList <+: s.toList := by
  rw [or_iff_not_imp_right, not_not]
  rintro ⟨rest, hrest⟩
  exact ⟨String.ofList rest, by rw [← String.toList_inj, ← hrest]; simp [String.toList_append]⟩

lemma prefix_append (r : SubjectRule) (rest : String) :
    r.removePrefix.toList <+: (r.removePrefix ++ rest).toList := by
  rw [String.toList_append]
  exact List.prefix_append _ _

/-- A subject is another one behind the prefix, and the prefix stands there only once. -/
def Merges (r : SubjectRule) (s t : String) : Prop :=
  s = r.removePrefix ++ t ∧ ¬ r.removePrefix.toList <+: t.toList

lemma Merges.apply_eq (h : r.Merges s t) : r.apply s = r.apply t := by
  obtain ⟨rfl, hplain⟩ := h
  rw [apply_append, apply_eq_append hplain]

/-- **A rule makes the same of two subjects when one is the other behind its prefix.** -/
theorem apply_eq_apply_iff (hne : s ≠ t) :
    r.apply s = r.apply t ↔ r.Merges s t ∨ r.Merges t s := by
  constructor
  · intro h
    -- by which of the two the prefix is taken off
    rcases r.begins_or_not s with ⟨s, rfl⟩ | hs <;> rcases r.begins_or_not t with ⟨t, rfl⟩ | ht
    · rw [apply_append, apply_append, String.append_right_inj] at h
      exact absurd (congrArg (r.removePrefix ++ ·) h) hne
    · rw [apply_append, apply_eq_append ht, String.append_right_inj] at h
      exact .inl ⟨by rw [h], ht⟩
    · rw [apply_eq_append hs, apply_append, String.append_right_inj] at h
      exact .inr ⟨by rw [h], hs⟩
    · rw [apply_eq_append hs, apply_eq_append ht, String.append_right_inj] at h
      exact absurd h hne
  · rintro (h | h)
    · exact h.apply_eq
    · exact h.apply_eq.symm

/-- Whatever a rule makes of a subject starts with what it puts in front. -/
lemma targetPrefix_prefix_apply (r : SubjectRule) (s : String) :
    r.targetPrefix.toList <+: (r.apply s).toList := by
  rw [apply, String.toList_append]
  exact List.prefix_append _ _

/-- Rules of which neither puts in front what the other does and more never make the same. -/
lemma apply_ne_apply {r' : SubjectRule} (h : ¬ r.targetPrefix.toList <+: r'.targetPrefix.toList)
    (h' : ¬ r'.targetPrefix.toList <+: r.targetPrefix.toList) (s t : String) :
    r.apply s ≠ r'.apply t := by
  intro heq
  have hprefix := r'.targetPrefix_prefix_apply t
  rw [← heq] at hprefix
  exact (List.prefix_or_prefix_of_prefix (r.targetPrefix_prefix_apply s) hprefix).elim h h'

/-- With whole tokens in front, a subject stays well formed unless nothing of it is left or the
prefix ended just before a dot of it. -/
lemma wellFormed_apply_iff {front : String} (hfront : r.targetPrefix = front ++ ".")
    (hs : WellFormed s) :
    WellFormed (r.apply s) ↔
      WellFormed front ∧ s ≠ r.removePrefix ∧ ∀ rest, s ≠ r.removePrefix ++ "." ++ rest := by
  rcases r.begins_or_not s with ⟨rest, rfl⟩ | hplain
  · rw [apply_append, hfront, Subject.wellFormed_below, hs.rest_iff]
    simp [String.append_assoc, String.append_right_inj]
  · have hself : s ≠ r.removePrefix := by
      rintro rfl
      exact hplain List.prefix_rfl
    have hdot : ∀ rest, s ≠ r.removePrefix ++ "." ++ rest := by
      rintro rest rfl
      rw [String.append_assoc] at hplain
      exact hplain (r.prefix_append _)
    rw [apply_eq_append hplain, hfront, Subject.wellFormed_below]
    simp [hs, hself, hdot]

/-- All well-formed subjects stay so when the prefix is not one of them. -/
lemma wellFormed_apply_forall_iff {front : String} (hfront : r.targetPrefix = front ++ ".") :
    (∀ s, WellFormed s → WellFormed (r.apply s)) ↔
      WellFormed front ∧ ¬ WellFormed r.removePrefix := by
  constructor
  · intro h
    constructor
    · have hone : WellFormed "a" := by decide
      exact ((wellFormed_apply_iff hfront hone).1 (h "a" hone)).1
    · intro hprefix
      exact ((wellFormed_apply_iff hfront hprefix).1 (h _ hprefix)).2.1 rfl
  · rintro ⟨hwhole, hprefix⟩ s hs
    rcases r.begins_or_not s with ⟨rest, rfl⟩ | hplain
    · rw [apply_append, hfront]
      exact Subject.wellFormed_below.2 ⟨hwhole, hs.of_append hprefix⟩
    · rw [apply_eq_append hplain, hfront]
      exact Subject.wellFormed_below.2 ⟨hwhole, hs⟩

end SubjectRule

namespace ReplicationTopology

variable {t : ReplicationTopology} {j : ReplicationJob} {r : SubjectRule}

lemma targetSubject_of_rule (h : j.subjectRule = some r) (s : String) :
    j.targetSubject s = r.apply s := by
  rw [ReplicationJob.targetSubject, h]

lemma targetSubject_of_ruleless (h : j.subjectRule = none) (s : String) :
    j.targetSubject s = s := by
  rw [ReplicationJob.targetSubject, h]

/-! ### The rules of a site -/

/-- The rule for submissions. -/
def submitRule : SubjectRule := ⟨"choria.submission.in.", "machine_room.submit."⟩

/-- The rule for the events of agents. -/
def lifecycleRule : SubjectRule := ⟨"choria.lifecycle.", "machine_room.events.lifecycle."⟩

/-- The rule for the events of autonomous agents. -/
def machineRule : SubjectRule := ⟨"choria.machine.", "machine_room.events.machine."⟩

/-- The jobs of a site that put their messages into one stream of the backend, with their rules. -/
lemma job?_standard (site backend directory : String) (credentials : ReplicationCredentials) :
    ∀ p ∈ [("SUBMIT", submitRule), ("CHORIA_EVENTS", lifecycleRule),
        ("CHORIA_MACHINE", machineRule)],
      ∃ j, (standard site backend directory credentials).job? p.1 = some j ∧
        j.sourceStream = p.1 ∧ j.targetStream = "MACHINE_ROOM_EVENTS" ∧
        j.subjectRule = some p.2 := by
  intro p hp
  simp only [List.mem_cons, List.not_mem_nil, or_false] at hp
  rcases hp with rfl | rfl | rfl <;> exact ⟨_, rfl, rfl, rfl, rfl⟩

/-- The stream of submissions captures what starts with the prefix of their rule. -/
lemma captures_submit_iff {spec : StreamSpec} (h : spec.subjects = ["choria.submission.in.>"])
    (s : String) : spec.captures s = true ↔ ∃ rest, s = submitRule.removePrefix ++ rest := by
  have hliteral : Subject.IsLiteral "choria.submission.in" := by decide
  rw [StreamSpec.captures_of_subjects h]
  exact Subject.covers_below_iff hliteral

lemma covers_submitted (rest : String) :
    covers "machine_room.submit.>" (submitRule.targetPrefix ++ rest) = true := by
  have hliteral : Subject.IsLiteral "machine_room.submit" := by decide
  exact (Subject.covers_below_iff hliteral).2 ⟨rest, rfl⟩

/-- **What rules merge, and what the jobs of a site keep apart.**  A rule makes the same of two
subjects when one is the other behind its prefix, which does not stand there twice.  The jobs that
put their messages into one stream of the backend never make the same of subjects of theirs; and the
job for submissions makes different subjects of all that its stream captures, each without the
prefix and below the subject for submissions. -/
theorem events_kept_apart :
    (∀ (r : SubjectRule) (s t : String), s ≠ t →
      (r.apply s = r.apply t ↔ r.Merges s t ∨ r.Merges t s)) ∧
    ∀ (site backend directory : String) (credentials : ReplicationCredentials),
      ∃ submit events machine,
        (standard site backend directory credentials).job? "SUBMIT" = some submit ∧
        (standard site backend directory credentials).job? "CHORIA_EVENTS" = some events ∧
        (standard site backend directory credentials).job? "CHORIA_MACHINE" = some machine ∧
        (∀ s t u, [submit.targetSubject s, events.targetSubject t,
          machine.targetSubject u].Nodup) ∧
        ∃ spec, .stream spec ∈ TopologySpec.standard.resources ∧
          spec.name = submit.sourceStream ∧
          Set.InjOn submit.targetSubject {s | spec.captures s = true} ∧
          (∀ s, spec.captures s = true ↔ ∃ rest, s = "choria.submission.in." ++ rest) ∧
          ∀ rest, submit.targetSubject ("choria.submission.in." ++ rest)
              = "machine_room.submit." ++ rest ∧
            covers "machine_room.submit.>" ("machine_room.submit." ++ rest) = true := by
  refine ⟨fun r s t => SubjectRule.apply_eq_apply_iff, fun site backend directory credentials => ?_⟩
  have hjobs := job?_standard site backend directory credentials
  obtain ⟨submit, hsubmit, hsource, -, hsubmitRule⟩ := hjobs ("SUBMIT", submitRule) (by simp)
  obtain ⟨events, hevents, -, -, heventsRule⟩ := hjobs ("CHORIA_EVENTS", lifecycleRule) (by simp)
  obtain ⟨machine, hmachine, -, -, hmachineRule⟩ := hjobs ("CHORIA_MACHINE", machineRule) (by simp)
  refine ⟨submit, events, machine, hsubmit, hevents, hmachine, fun s t u => ?_,
    { name := "SUBMIT"
      subjects := ["choria.submission.in.>"]
      maxAge := some (.ofSecs 86400) },
    by simp [TopologySpec.standard], hsource.symm, ?_,
    captures_submit_iff rfl, fun rest => ⟨?_, covers_submitted rest⟩⟩
  · have hfirst : submitRule.apply s ≠ lifecycleRule.apply t :=
      SubjectRule.apply_ne_apply (by decide) (by decide) s t
    have hsecond : submitRule.apply s ≠ machineRule.apply u :=
      SubjectRule.apply_ne_apply (by decide) (by decide) s u
    have hthird : lifecycleRule.apply t ≠ machineRule.apply u :=
      SubjectRule.apply_ne_apply (by decide) (by decide) t u
    simp [targetSubject_of_rule hsubmitRule, targetSubject_of_rule heventsRule,
      targetSubject_of_rule hmachineRule, hfirst, hsecond, hthird]
  · intro s hs s' hs' heq
    obtain ⟨rest, rfl⟩ := (captures_submit_iff rfl s).1 hs
    obtain ⟨rest', rfl⟩ := (captures_submit_iff rfl s').1 hs'
    rw [targetSubject_of_rule hsubmitRule, targetSubject_of_rule hsubmitRule,
      SubjectRule.apply_append, SubjectRule.apply_append, String.append_right_inj] at heq
    rw [heq]
  · rw [targetSubject_of_rule hsubmitRule]
    exact submitRule.apply_append rest

/-- A submission is copied to where its rule would also put what stands behind the prefix. -/
theorem events_kept_apart_submission :
    submitRule.apply "choria.submission.in.n1.a" = submitRule.apply "n1.a" ∧
    ∃ submit, (standard "lon1" "nats://backend:4222" "/state/replicator"
        ⟨"/etc/server.seed", "/etc/server.jwt", defaultCollective⟩).job? "SUBMIT" = some submit ∧
      submit.targetSubject "choria.submission.in.n1.a" = "machine_room.submit.n1.a" := by
  obtain ⟨hmerges, hjobs⟩ := events_kept_apart
  refine ⟨(hmerges _ _ _ (by decide)).2 (.inl ⟨by decide, by decide⟩), ?_⟩
  obtain ⟨submit, -, -, hsubmit, -, -, -, spec, -, -, -, -, htarget⟩ :=
    hjobs "lon1" "nats://backend:4222" "/state/replicator"
      ⟨"/etc/server.seed", "/etc/server.jwt", defaultCollective⟩
  exact ⟨submit, hsubmit, (htarget "n1.a").1⟩

/-! ### Well-formed subjects -/

/-- The rules of a site put whole tokens in front, and their prefixes end with a dot. -/
lemma exists_front_of_standardJobs {backend : String} (hj : j ∈ standardJobs backend)
    (hr : j.subjectRule = some r) :
    ∃ front, r.targetPrefix = front ++ "." ∧ WellFormed front ∧ ¬ WellFormed r.removePrefix := by
  simp only [standardJobs, List.mem_cons, List.not_mem_nil, or_false] at hj
  rcases hj with rfl | rfl | rfl | rfl | rfl
  · cases hr
  · cases hr
    exact ⟨"machine_room.submit", by decide, by decide, by decide⟩
  · cases hr
    exact ⟨"machine_room.events.lifecycle", by decide, by decide, by decide⟩
  · cases hr
    exact ⟨"machine_room.events.machine", by decide, by decide, by decide⟩
  · cases hr

/-- **Which accepted rules keep subjects well formed.**  A job without a rule leaves subjects as
they are.  What a rule of an accepted topology puts in front ends a token; a well-formed subject
stays so unless there is an empty token in what is put in front, nothing is left of the subject, or
the prefix ended just before a dot of it.  So all do when whole tokens are put in front and the
prefix is not well formed itself, as in the topologies that configurations describe. -/
theorem wellFormed_kept_iff (ht : t.validate = .ok ()) :
    (∀ j ∈ t.jobs, j.subjectRule = none → ∀ s, j.targetSubject s = s) ∧
    (∀ j ∈ t.jobs, ∀ r, j.subjectRule = some r → ∃ front, r.targetPrefix = front ++ "." ∧
      (∀ s, WellFormed s → (WellFormed (j.targetSubject s) ↔
        WellFormed front ∧ s ≠ r.removePrefix ∧ ∀ rest, s ≠ r.removePrefix ++ "." ++ rest)) ∧
      ((∀ s, WellFormed s → WellFormed (j.targetSubject s)) ↔
        WellFormed front ∧ ¬ WellFormed r.removePrefix)) ∧
    ∀ c paths, ofConfig c paths = .ok t →
      ∀ j ∈ t.jobs, ∀ s, WellFormed s → WellFormed (j.targetSubject s) := by
  refine ⟨fun j _ h => targetSubject_of_ruleless h, fun j hj r hr => ?_,
    fun c paths hconfig j hj s hs => ?_⟩
  · obtain ⟨front, hfront⟩ := (fit_of_validate ht).2.2.targetPrefix j hj r hr
    simp only [targetSubject_of_rule hr]
    exact ⟨front, hfront, fun s => SubjectRule.wellFormed_apply_iff hfront,
      SubjectRule.wellFormed_apply_forall_iff hfront⟩
  · obtain ⟨-, -, rfl⟩ := ofConfig_eq_ok_iff.1 hconfig
    cases hrule : j.subjectRule with
    | none => rwa [targetSubject_of_ruleless hrule]
    | some r =>
      obtain ⟨front, hfront, hkept⟩ := exists_front_of_standardJobs hj hrule
      rw [targetSubject_of_rule hrule]
      exact (SubjectRule.wellFormed_apply_forall_iff hfront).2 hkept s hs

/-- A site with one job that puts an empty token in front of submissions, and one whose prefix ends
just before a dot. -/
def looseSite : ReplicationTopology where
  name := "dc1"
  stateDirectory := "/state/replicator"
  credentials := ⟨"/etc/server.seed", "/etc/server.jwt", defaultCollective⟩
  jobs := [
    .toBackend "SUBMIT" "SUBMIT" "MACHINE_ROOM_EVENTS" "nats://backend:4222"
      (some ⟨"choria.submission.in.", "."⟩),
    .toBackend "SUBMIT_COPY" "SUBMIT" "MACHINE_ROOM_EVENTS" "nats://backend:4222"
      (some ⟨"choria.submission.in", "machine_room.submit."⟩)]

/-- It is accepted, and neither job makes a well-formed subject of a submission. -/
theorem wellFormed_kept_iff_loose :
    looseSite.validate = .ok () ∧ WellFormed "choria.submission.in.n1" ∧
      ∀ j ∈ looseSite.jobs, ¬ WellFormed (j.targetSubject "choria.submission.in.n1") := by
  have hvalid : looseSite.validate = .ok () := by decide +kernel
  have hsubject : WellFormed "choria.submission.in.n1" := by decide
  obtain ⟨-, hruled, -⟩ := wellFormed_kept_iff hvalid
  refine ⟨hvalid, hsubject, fun j hj => ?_⟩
  have hcases := hj
  simp only [looseSite, List.mem_cons, List.not_mem_nil, or_false] at hcases
  rcases hcases with rfl | rfl
  · obtain ⟨front, hfront, hkept, -⟩ := hruled _ hj _ rfl
    -- nothing stands before the dot that is put in front
    have hempty : front = "" := by simpa using congrArg String.toList hfront
    rw [hkept _ hsubject, hempty]
    exact fun h => Subject.not_wellFormed_empty h.1
  · obtain ⟨front, -, hkept, -⟩ := hruled _ hj _ rfl
    rw [hkept _ hsubject]
    exact fun h => h.2.2 "n1" (by decide)

end ReplicationTopology

end EdgeNode
