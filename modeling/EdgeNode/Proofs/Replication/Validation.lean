import EdgeNode.Replication.Topology
import Mathlib.Data.List.Induction
import Mathlib.Data.List.Nodup
import Mathlib.Order.WellFounded
/-!
# Which topologies are accepted

The jobs of a topology are judged in order, each by the same checks and with a view to the names
before it.  `ReplicationTopology.Fit` is what the jobs of an accepted topology have in common, said
of the list as a whole.  A topology that is refused is refused for the first check that its first
unfit job does not pass, and the topologies that configurations describe are all accepted.
-/

namespace EdgeNode.ReplicationTopology

/-! ### Checks -/

/-- A field of a job that must be filled. -/
inductive Field where
  | sourceStream
  | targetStream
  | sourceUrl
  | targetUrl
deriving DecidableEq, Repr

namespace Field

/-- What a job has in a field. -/
def value (j : ReplicationJob) : Field → String
  | sourceStream => j.sourceStream
  | targetStream => j.targetStream
  | sourceUrl => j.sourceUrl
  | targetUrl => j.targetUrl

/-- What a field is called. -/
def label : Field → String
  | sourceStream => "source stream"
  | targetStream => "target stream"
  | sourceUrl => "source url"
  | targetUrl => "target url"

/-- The place of a field among the fields. -/
def place : Field → Nat
  | sourceStream => 0
  | targetStream => 1
  | sourceUrl => 2
  | targetUrl => 3

end Field

/-- What is asked of a job. -/
inductive Check where
  /-- It has a name. -/
  | named
  /-- No job before it has its name. -/
  | fresh
  /-- It says where it reads from or writes to. -/
  | filled (f : Field)
  /-- The broker on its local side is the embedded one. -/
  | localSide
  /-- What its rule puts in front of subjects ends a token. -/
  | targetPrefix
deriving DecidableEq, Repr

namespace Check

/-- The place of a check in the order in which checks are made. -/
def place : Check → Nat
  | named => 0
  | fresh => 1
  | filled f => 2 + f.place
  | localSide => 6
  | targetPrefix => 7

/-- Whether a job that follows others passes. -/
def Passes (before : List ReplicationJob) (j : ReplicationJob) : Check → Prop
  | named => j.name ≠ ""
  | fresh => j.name ∉ before.map ReplicationJob.name
  | filled f => f.value j ≠ ""
  | localSide => j.localUrl = localBrokerUrl
  | targetPrefix => ∀ r ∈ j.subjectRule, r.targetPrefix.toList.getLast? = some '.'

/-- What is said of a job that does not pass. -/
def message (j : ReplicationJob) : Check → String
  | named => "job with empty name"
  | fresh => "duplicate job name " ++ j.name
  | filled f => "job " ++ j.name ++ " has no " ++ f.label
  | localSide => "job " ++ j.name ++ " must use " ++ localBrokerUrl ++ " on its local side, got "
      ++ j.localUrl
  | targetPrefix => "job " ++ j.name
      ++ " target prefix must be a non-empty subject prefix ending in '.'"

end Check

/-- The jobs of a topology fit together. -/
structure Fit (jobs : List ReplicationJob) : Prop where
  named : ∀ j ∈ jobs, j.name ≠ ""
  distinct : (jobs.map ReplicationJob.name).Nodup
  filled : ∀ j ∈ jobs,
    j.sourceStream ≠ "" ∧ j.targetStream ≠ "" ∧ j.sourceUrl ≠ "" ∧ j.targetUrl ≠ ""
  localSide : ∀ j ∈ jobs, (j.direction = .localToBackend → j.sourceUrl = localBrokerUrl) ∧
    (j.direction = .backendToLocal → j.targetUrl = localBrokerUrl)
  /-- What a rule puts in front of a subject ends with a dot. -/
  targetPrefix : ∀ j ∈ jobs, ∀ r ∈ j.subjectRule, ∃ front, r.targetPrefix = front ++ "."

/-- A job that follows others fails a check, and it is the first that it fails. -/
def Spoils (before : List ReplicationJob) (j : ReplicationJob) (c : Check) : Prop :=
  ¬ c.Passes before j ∧ ∀ earlier : Check, earlier.place < c.place → earlier.Passes before j

variable {before jobs : List ReplicationJob} {j : ReplicationJob} {seen : List String}

/-- A job passes all checks, or there is a first one that it fails. -/
lemma passes_or_spoils (before : List ReplicationJob) (j : ReplicationJob) :
    (∀ c : Check, c.Passes before j) ∨ ∃ c, Spoils before j c := by
  rw [or_iff_not_imp_left, not_forall]
  intro hfails
  -- among the checks that fail, the one at the first place
  obtain ⟨c, hc, hleast⟩ :=
    (measure Check.place).wf.has_min {c | ¬ c.Passes before j} hfails
  exact ⟨c, hc, fun earlier hlt => not_not.1 fun hfail => hleast earlier hfail hlt⟩

lemma localUrl_eq_iff : j.localUrl = localBrokerUrl ↔
    (j.direction = .localToBackend → j.sourceUrl = localBrokerUrl) ∧
      (j.direction = .backendToLocal → j.targetUrl = localBrokerUrl) := by
  unfold ReplicationJob.localUrl
  cases j.direction <;> simp

lemma endsToken_iff {s : String} : s.toList.getLast? = some '.' ↔ ∃ front, s = front ++ "." := by
  rw [List.getLast?_eq_some_iff]
  constructor
  · rintro ⟨front, hfront⟩
    exact ⟨String.ofList front, by rw [← String.toList_inj]; simp [hfront]⟩
  · rintro ⟨front, rfl⟩
    exact ⟨front.toList, by simp⟩

/-- A job may follow jobs that fit together when it passes every check. -/
lemma fit_concat_iff : Fit (before ++ [j]) ↔ Fit before ∧ ∀ c : Check, c.Passes before j := by
  have hnames : ((before ++ [j]).map ReplicationJob.name).Nodup ↔
      j.name ∉ before.map ReplicationJob.name ∧ (before.map ReplicationJob.name).Nodup := by
    rw [List.map_append, List.map_singleton, List.nodup_append_comm]
    exact List.nodup_cons
  constructor
  · rintro ⟨hnamed, hdistinct, hfilled, hlocal, htarget⟩
    rw [List.forall_mem_append, List.forall_mem_singleton] at hnamed hfilled hlocal htarget
    obtain ⟨hfresh, hdistinct⟩ := hnames.1 hdistinct
    obtain ⟨hsource, htarget', hsourceUrl, htargetUrl⟩ := hfilled.2
    refine ⟨⟨hnamed.1, hdistinct, hfilled.1, hlocal.1, htarget.1⟩, fun c => ?_⟩
    cases c with
    | named => exact hnamed.2
    | fresh => exact hfresh
    | filled f => cases f <;> assumption
    | localSide => exact localUrl_eq_iff.2 hlocal.2
    | targetPrefix => exact fun r hr => endsToken_iff.2 (htarget.2 r hr)
  · rintro ⟨⟨hnamed, hdistinct, hfilled, hlocal, htarget⟩, hpasses⟩
    refine ⟨?_, hnames.2 ⟨hpasses .fresh, hdistinct⟩, ?_, ?_, ?_⟩ <;>
      rw [List.forall_mem_append, List.forall_mem_singleton]
    · exact ⟨hnamed, hpasses .named⟩
    · exact ⟨hfilled, hpasses (.filled .sourceStream), hpasses (.filled .targetStream),
        hpasses (.filled .sourceUrl), hpasses (.filled .targetUrl)⟩
    · exact ⟨hlocal, localUrl_eq_iff.1 (hpasses .localSide)⟩
    · exact ⟨htarget, fun r hr => endsToken_iff.1 (hpasses .targetPrefix r hr)⟩

/-! ### One job -/

/-- The names seen so far are those of the jobs so far. -/
def Sees (seen : List String) (before : List ReplicationJob) : Prop :=
  ∀ name, name ∈ seen ↔ name ∈ before.map ReplicationJob.name

lemma emptyField?_of_filled (h : ∀ f : Field, f.value j ≠ "") : emptyField? j = none := by
  have hsource : j.sourceStream ≠ "" := h .sourceStream
  have htarget : j.targetStream ≠ "" := h .targetStream
  have hsourceUrl : j.sourceUrl ≠ "" := h .sourceUrl
  have htargetUrl : j.targetUrl ≠ "" := h .targetUrl
  simp [emptyField?, hsource, htarget, hsourceUrl, htargetUrl]

/-- The first field that is not filled is named. -/
lemma emptyField?_of_empty {f : Field} (hempty : f.value j = "")
    (h : ∀ earlier : Field, earlier.place < f.place → earlier.value j ≠ "") :
    emptyField? j = some f.label := by
  unfold emptyField?
  cases f with
  | sourceStream => exact if_pos (String.isEmpty_iff.2 hempty)
  | targetStream =>
    have hsource : j.sourceStream ≠ "" := h .sourceStream (by decide)
    rw [if_neg (by simpa using hsource)]
    exact if_pos (String.isEmpty_iff.2 hempty)
  | sourceUrl =>
    have hsource : j.sourceStream ≠ "" := h .sourceStream (by decide)
    have htarget : j.targetStream ≠ "" := h .targetStream (by decide)
    rw [if_neg (by simpa using hsource), if_neg (by simpa using htarget)]
    exact if_pos (String.isEmpty_iff.2 hempty)
  | targetUrl =>
    have hsource : j.sourceStream ≠ "" := h .sourceStream (by decide)
    have htarget : j.targetStream ≠ "" := h .targetStream (by decide)
    have hsourceUrl : j.sourceUrl ≠ "" := h .sourceUrl (by decide)
    rw [if_neg (by simpa using hsource), if_neg (by simpa using htarget),
      if_neg (by simpa using hsourceUrl)]
    exact if_pos (String.isEmpty_iff.2 hempty)

/-- Once a job has a new name, its fields are looked at. -/
lemma fault?_of_fresh (hseen : Sees seen before) (hnamed : j.name ≠ "")
    (hfresh : Check.fresh.Passes before j) :
    fault? seen j = match emptyField? j with
      | some label => some ("job " ++ j.name ++ " has no " ++ label)
      | none =>
        if j.localUrl = localBrokerUrl then
          match j.subjectRule with
          | some r =>
            if r.targetPrefix.toList.getLast? = some '.' then none
            else some (Check.targetPrefix.message j)
          | none => none
        else some (Check.localSide.message j) := by
  have hunseen : seen.contains j.name = false := by
    rw [Bool.eq_false_iff, ne_eq, List.contains_iff_mem, hseen]
    exact hfresh
  rw [fault?, if_neg (by simpa using hnamed), hunseen, if_neg Bool.false_ne_true]
  simp only [ite_not]
  rfl

lemma fault?_of_passes (hseen : Sees seen before) (h : ∀ c : Check, c.Passes before j) :
    fault? seen j = none := by
  have hlocal : j.localUrl = localBrokerUrl := h .localSide
  rw [fault?_of_fresh hseen (h .named) (h .fresh), emptyField?_of_filled fun f => h (.filled f)]
  simp only [if_pos hlocal]
  cases hrule : j.subjectRule with
  | none => rfl
  | some r => exact if_pos (h .targetPrefix r hrule)

/-- **A job is found fault with for the first check that it fails.** -/
theorem fault?_of_spoils {c : Check} (hseen : Sees seen before) (h : Spoils before j c) :
    fault? seen j = some (c.message j) := by
  obtain ⟨hfails, hearlier⟩ := h
  cases c with
  | named => exact if_pos (String.isEmpty_iff.2 (not_not.1 hfails))
  | fresh =>
    have hnamed : j.name ≠ "" := hearlier .named (by decide)
    have hcontains : seen.contains j.name :=
      List.contains_iff_mem.2 ((hseen _).2 (not_not.1 hfails))
    rw [fault?, if_neg (by simpa using hnamed), if_pos hcontains]
    rfl
  | filled f =>
    -- the checks before it are the two of the name and those of the fields before
    have hempty : emptyField? j = some f.label :=
      emptyField?_of_empty (not_not.1 hfails) fun earlier hlt =>
        hearlier (.filled earlier) (Nat.add_lt_add_left hlt 2)
    rw [fault?_of_fresh hseen (hearlier .named (by cases f <;> decide))
      (hearlier .fresh (by cases f <;> decide)), hempty]
    rfl
  | localSide =>
    have hfilled : ∀ f : Field, f.value j ≠ "" := fun f =>
      hearlier (.filled f) (by cases f <;> decide)
    rw [fault?_of_fresh hseen (hearlier .named (by decide)) (hearlier .fresh (by decide)),
      emptyField?_of_filled hfilled]
    exact if_neg hfails
  | targetPrefix =>
    have hfilled : ∀ f : Field, f.value j ≠ "" := fun f =>
      hearlier (.filled f) (by cases f <;> decide)
    have hlocal : j.localUrl = localBrokerUrl := hearlier .localSide (by decide)
    rw [fault?_of_fresh hseen (hearlier .named (by decide)) (hearlier .fresh (by decide)),
      emptyField?_of_filled hfilled]
    simp only [if_pos hlocal]
    obtain ⟨r, hr⟩ := not_forall.1 hfails
    obtain ⟨hrule, hdotless⟩ := Classical.not_imp.1 hr
    rw [Option.mem_def.1 hrule]
    exact if_neg hdotless

/-! ### All jobs -/

lemma Sees.concat (h : Sees seen before) (j : ReplicationJob) :
    Sees (j.name :: seen) (before ++ [j]) := by
  intro name
  rw [List.mem_cons, h name, List.map_append, List.mem_append, List.map_singleton,
    List.mem_singleton, or_comm]

lemma fit_nil : Fit [] :=
  ⟨by simp, List.nodup_nil, by simp, by simp, by simp⟩

lemma Fit.of_append {past later : List ReplicationJob} (h : Fit (past ++ later)) : Fit past := by
  induction later using List.reverseRecOn with
  | nil => simpa using h
  | append_singleton later j ih =>
    rw [← List.append_assoc] at h
    exact ih (fit_concat_iff.1 h).1

/-- Jobs fit together, or there is a first one that spoils those before it. -/
lemma fit_or_spoils (jobs : List ReplicationJob) : Fit jobs ∨
    ∃ past j later c, jobs = past ++ j :: later ∧ Fit past ∧ Spoils past j c := by
  -- job by job from the front: a fault that was found stays the first
  induction jobs using List.reverseRecOn with
  | nil => exact .inl fit_nil
  | append_singleton jobs last ih =>
    rcases ih with hfit | ⟨past, j, later, c, rfl, hfit, hspoils⟩
    · rcases passes_or_spoils jobs last with hpasses | ⟨c, hspoils⟩
      · exact .inl (fit_concat_iff.2 ⟨hfit, hpasses⟩)
      · exact .inr ⟨jobs, last, [], c, rfl, hfit, hspoils⟩
    · exact .inr ⟨past, j, later ++ [last], c, by simp, hfit, hspoils⟩

/-- Jobs that fit together are passed over. -/
lemma firstFault?_append {past : List ReplicationJob} (hseen : Sees seen before)
    (hfit : Fit (before ++ past)) :
    ∃ seen', Sees seen' (before ++ past) ∧
      ∀ rest, firstFault? seen (past ++ rest) = firstFault? seen' rest := by
  induction past generalizing seen before with
  | nil => exact ⟨seen, by simpa using hseen, fun _ => rfl⟩
  | cons j past ih =>
    rw [List.append_cons] at hfit
    -- the job at the front is judged by what was before it
    have hpasses := (fit_concat_iff.1 hfit.of_append).2
    obtain ⟨seen', hseen', hrest⟩ := ih (hseen.concat j) hfit
    refine ⟨seen', by rwa [List.append_cons], fun rest => ?_⟩
    rw [List.cons_append, firstFault?, fault?_of_passes hseen hpasses]
    exact hrest rest

lemma sees_nil : Sees [] [] :=
  fun _ => Iff.rfl

lemma firstFault?_of_fit (h : Fit jobs) : firstFault? [] jobs = none := by
  obtain ⟨seen, -, hrest⟩ := firstFault?_append sees_nil h
  simpa [firstFault?] using hrest []

lemma firstFault?_of_spoils {past later : List ReplicationJob} {c : Check} (hfit : Fit past)
    (hspoils : Spoils past j c) : firstFault? [] (past ++ j :: later) = some (c.message j) := by
  obtain ⟨seen, hseen, hrest⟩ := firstFault?_append sees_nil hfit
  rw [hrest, firstFault?, fault?_of_spoils hseen hspoils]

/-! ### Topologies -/

/-- What a topology is refused for. -/
inductive Refused (t : ReplicationTopology) : String → Prop
  /-- It names no site. -/
  | nameless (h : t.name = "") : Refused t "replicator name is empty"
  /-- It has no jobs. -/
  | jobless (h : t.name ≠ "") (hjobs : t.jobs = []) : Refused t "no jobs defined"
  /-- The jobs before a job fit together, but not with it: it fails a check. -/
  | unfit {before : List ReplicationJob} {j : ReplicationJob} {later : List ReplicationJob}
      {c : Check} (h : t.name ≠ "") (hjobs : t.jobs = before ++ j :: later) (hfit : Fit before)
      (hspoils : Spoils before j c) : Refused t (c.message j)

variable {t : ReplicationTopology} {fault : String}

lemma validate_of_fit (hname : t.name ≠ "") (hjobs : t.jobs ≠ []) (hfit : Fit t.jobs) :
    t.validate = .ok () := by
  rw [validate, if_neg (by simpa using hname), if_neg (by simpa using hjobs),
    firstFault?_of_fit hfit]

lemma validate_of_refused (h : Refused t fault) : t.validate = .error (.invalidTopology fault) := by
  cases h with
  | nameless hname => exact if_pos (String.isEmpty_iff.2 hname)
  | jobless hname hjobs =>
    rw [validate, if_neg (by simpa using hname)]
    exact if_pos (List.isEmpty_iff.2 hjobs)
  | unfit hname hjobs hfit hspoils =>
    have hsome : t.jobs ≠ [] := by simp [hjobs]
    rw [validate, if_neg (by simpa using hname), if_neg (by simpa using hsome), hjobs,
      firstFault?_of_spoils hfit hspoils]

/-- A topology is as it should be, or there is something for which it is refused. -/
lemma fit_or_refused (t : ReplicationTopology) :
    (t.name ≠ "" ∧ t.jobs ≠ [] ∧ Fit t.jobs) ∨ ∃ fault, Refused t fault := by
  by_cases hname : t.name = ""
  · exact .inr ⟨_, .nameless hname⟩
  by_cases hjobs : t.jobs = []
  · exact .inr ⟨_, .jobless hname hjobs⟩
  rcases fit_or_spoils t.jobs with hfit | ⟨past, j, later, c, hsplit, hfit, hspoils⟩
  · exact .inl ⟨hname, hjobs, hfit⟩
  · exact .inr ⟨_, .unfit hname hsplit hfit hspoils⟩

lemma fit_of_validate (h : t.validate = .ok ()) : t.name ≠ "" ∧ t.jobs ≠ [] ∧ Fit t.jobs := by
  refine (fit_or_refused t).resolve_right ?_
  rintro ⟨fault, hrefused⟩
  rw [validate_of_refused hrefused] at h
  contradiction

/-- The jobs of every site fit together, whatever its backend is called. -/
lemma fit_standardJobs {backend : String} (h : backend ≠ "") : Fit (standardJobs backend) := by
  constructor
  case named => simp [standardJobs, ReplicationJob.toBackend]
  case distinct => simp [standardJobs, ReplicationJob.toBackend]
  case filled => simp [standardJobs, ReplicationJob.toBackend, localBrokerUrl, h]
  case localSide => simp [standardJobs, ReplicationJob.toBackend]
  case targetPrefix =>
    intro j hj r hr
    rw [← endsToken_iff]
    simp only [standardJobs, List.mem_cons, List.not_mem_nil, or_false] at hj
    rcases hj with rfl | rfl | rfl | rfl | rfl <;> cases hr <;> decide

/-- A configuration describes a topology when it names the backend and the site. -/
lemma ofConfig_eq_ok_iff {c : Config} {paths : RuntimePaths} : ofConfig c paths = .ok t ↔
    c.option Config.sourceHostOption "" ≠ "" ∧ c.option Config.siteOption "" ≠ "" ∧
      t = standard (c.option Config.siteOption "") (c.option Config.sourceHostOption "")
        paths.replicationStateDirectory (credentialsOf paths) := by
  simp only [ofConfig, String.isEmpty_iff]
  split
  · next hbackend => simp [hbackend]
  · next hbackend =>
    split
    · next hsite => simp [hsite]
    · next hsite => simp [hbackend, hsite, eq_comm]

/-- **A topology is accepted when its jobs fit together, and otherwise refused for the first check
that fails.**  The topologies of configurations are accepted; there is one when the configuration
names the backend and the site. -/
theorem validate_eq_ok_iff (t : ReplicationTopology) (c : Config) (paths : RuntimePaths) :
    (t.validate = .ok () ↔ t.name ≠ "" ∧ t.jobs ≠ [] ∧ Fit t.jobs) ∧
    (∀ e, t.validate = .error e ↔ ∃ fault, Refused t fault ∧ e = .invalidTopology fault) ∧
    ((∃ t, ofConfig c paths = .ok t) ↔
      c.option Config.sourceHostOption "" ≠ "" ∧ c.option Config.siteOption "" ≠ "") ∧
    ∀ t, ofConfig c paths = .ok t → t.validate = .ok () := by
  refine ⟨⟨fit_of_validate, fun h => validate_of_fit h.1 h.2.1 h.2.2⟩,
    fun e => ⟨fun herror => ?_, ?_⟩, ⟨?_, ?_⟩, fun t ht => ?_⟩
  · rcases fit_or_refused t with ⟨hname, hjobs, hfit⟩ | ⟨fault, hrefused⟩
    · rw [validate_of_fit hname hjobs hfit] at herror
      contradiction
    · rw [validate_of_refused hrefused] at herror
      exact ⟨fault, hrefused, (Except.error.inj herror).symm⟩
  · rintro ⟨fault, hrefused, rfl⟩
    exact validate_of_refused hrefused
  · rintro ⟨t, ht⟩
    obtain ⟨hbackend, hsite, -⟩ := ofConfig_eq_ok_iff.1 ht
    exact ⟨hbackend, hsite⟩
  · rintro ⟨hbackend, hsite⟩
    exact ⟨_, ofConfig_eq_ok_iff.2 ⟨hbackend, hsite, rfl⟩⟩
  · obtain ⟨hbackend, hsite, rfl⟩ := ofConfig_eq_ok_iff.1 ht
    exact validate_of_fit hsite (by simp [standard, standardJobs]) (fit_standardJobs hbackend)

end EdgeNode.ReplicationTopology
