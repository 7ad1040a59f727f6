import EdgeNode.Proofs.Files.Removal
import EdgeNode.Reset
import Mathlib.Data.List.Induction
/-!
# What a reset leaves

A reset is meant to leave the token that a node is provisioned with.  It leaves the token just when
none of the removals takes away anything on the way to it, each judged by the tree as it was before
the first of them (`stat_token_reset_iff`).  A removal that follows others may find less than it
would have found first, but what is on its way to the token is then gone already.

For a configuration path without steps up that does not end in the name of the token, the only
removals that can take it away are those of the state directory and of the status file
(`stat_token_reset_iff_of_plain`).
-/

namespace EdgeNode

variable {f g : Files} {l q x : Location} {e : Entry} {path : String} {targets : List String}
  {r : ResetReport}

/-! ### Removals in turn -/

lemma removeAll_cons (f : Files) (r : ResetReport) (path : String) (targets : List String) :
    removeAll f r (path :: targets)
      = removeAll (f.remove path).1 (r.add path (f.remove path).2) targets := rfl

lemma leftOf_removeAll (f : Files) (r : ResetReport) (targets : List String) :
    f.LeftOf (removeAll f r targets).2 := by
  induction targets generalizing f r with
  | nil => exact .refl f
  | cons path targets ih =>
    rw [removeAll_cons]
    exact (Files.LeftOf.remove f path).trans (ih _ _)

/-- What no removal would take away from the whole tree, none takes away in its turn. -/
lemma get?_removeAll (hleft : f.LeftOf g) (h : ∀ path ∈ targets, ¬ f.Strips path q) :
    (removeAll g r targets).2.get? q = g.get? q := by
  induction targets generalizing g r with
  | nil => rfl
  | cons path targets ih =>
    have hkeeps : ¬ g.Strips path q := fun hstrips =>
      h path List.mem_cons_self (hleft.strips hstrips)
    rw [removeAll_cons, ih (hleft.trans (.remove g path)) fun path' hp =>
      h path' (List.mem_cons_of_mem _ hp)]
    exact (Files.get?_remove g path q).2 hkeeps

/-- If a removal would take away something of a part of the whole tree, and what lies on its way is
that part or above it, then some of the part is gone when it has had its turn. -/
lemma exists_gone {part : List Location} (hleft : f.LeftOf g) (hpath : path ∈ targets)
    (hway : ∀ x ∈ f.way path, ∃ y ∈ part, x <+: y) (hq : q ∈ part) (hstrips : f.Strips path q) :
    ∃ y ∈ part, (removeAll g r targets).2.get? y = none := by
  induction targets generalizing g r with
  | nil => contradiction
  | cons first targets ih =>
    rcases List.mem_cons.1 hpath with rfl | hpath
    · by_cases hstands : ∀ x ∈ f.way path, g.get? x ≠ none
      · have hgone := (Files.get?_remove g path q).1 (hleft.strips_of_way hstands hstrips)
        rw [removeAll_cons]
        exact ⟨q, hq, (leftOf_removeAll _ _ _).get?_eq_none hgone⟩
      · push Not at hstands
        obtain ⟨x, hx, hnone⟩ := hstands
        obtain ⟨y, hy, hxy⟩ := hway x hx
        obtain ⟨-, l, e, hstat, -, -⟩ := hstrips
        have hgone := hleft.below x y hxy (Files.get?_ne_none_of_stat hstat hx) hnone
        exact ⟨y, hy, (leftOf_removeAll g r (path :: targets)).get?_eq_none hgone⟩
    · rw [removeAll_cons]
      exact ih (hleft.trans (.remove g first)) hpath

/-! ### The targets -/

variable {configFile stateDirectory : String}

/-- What a reset removes: the state directory, the configuration file, the status file and files
beside the configuration file. -/
inductive IsTarget (configFile stateDirectory : String) : String → Prop where
  | state : IsTarget configFile stateDirectory stateDirectory
  | config : IsTarget configFile stateDirectory configFile
  | status : IsTarget configFile stateDirectory (Path.join stateDirectory "status.json")
  | beside {name : String} (hname : Path.IsName name) (htoken : name ≠ "provisioning.jwt") :
      IsTarget configFile stateDirectory
        (Path.join (RuntimePaths.directoryOf configFile) name)

lemma isTarget_of_mem
    (h : path ∈ resetTargets (RuntimePaths.ofFiles configFile stateDirectory)) :
    IsTarget configFile stateDirectory path := by
  simp only [resetTargets, RuntimePaths.ofFiles, List.mem_cons, List.not_mem_nil, or_false] at h
  rcases h with rfl | rfl | rfl | rfl | rfl | rfl | rfl | rfl | rfl | rfl | rfl | rfl
  · exact .state
  · exact .beside (by decide) (by decide)
  · exact .beside (by decide) (by decide)
  · exact .beside (by decide) (by decide)
  · exact .beside (by decide) (by decide)
  · exact .beside (by decide) (by decide)
  · exact .beside (by decide) (by decide)
  · exact .beside (by decide) (by decide)
  · exact .beside (by decide) (by decide)
  · exact .beside (by decide) (by decide)
  · exact .status
  · exact .config

/-- The way of a path that leads to something on or above another way lies on or above that way, if
all but the last step of it does. -/
lemma covered_of_front {part : List Location} (hstat : f.stat path = .ok (l, e)) (hl : l <+: q)
    (hq : q ∈ part)
    (hfront : ∀ front last, Path.steps path = front ++ [last] →
      ∀ x ∈ Files.trail (f.start path) front, ∃ y ∈ part, x <+: y) :
    ∀ x ∈ f.way path, ∃ y ∈ part, x <+: y := by
  obtain ⟨hend, -⟩ := Files.locate_eq_ok (Files.stat_eq_ok.1 hstat).1
  intro x hx
  rw [Files.way] at hx
  rcases List.eq_nil_or_concat' (Path.steps path) with hsteps | ⟨front, last, hsteps⟩
  · rw [hsteps] at hx hend
    obtain rfl := List.mem_singleton.1 hx
    rw [hend] at hl
    exact ⟨q, hq, hl⟩
  · rw [hsteps] at hx hend
    rcases Files.mem_trail_concat hx with hx | rfl
    · exact hfront front last hsteps x hx
    · exact ⟨q, hq, hend ▸ hl⟩

/-- The token that a node is provisioned with. -/
abbrev tokenOf (configFile stateDirectory : String) : String :=
  (RuntimePaths.ofFiles configFile stateDirectory).provisioningTokenFile

lemma isName_token : Path.IsName "provisioning.jwt" := by decide

lemma way_token : f.way (tokenOf configFile stateDirectory)
    = Files.trail (f.start (RuntimePaths.directoryOf configFile))
        (Path.steps (RuntimePaths.directoryOf configFile) ++ ["provisioning.jwt"]) :=
  Files.way_join isName_token

/-- A removal that would take away something on the way to the token still finds its own way while
that way is left, unless the removal of the state directory would take it away as well. -/
lemma covered_or_state (htarget : IsTarget configFile stateDirectory path)
    (hq : q ∈ f.way (tokenOf configFile stateDirectory)) (hstrips : f.Strips path q) :
    (∀ x ∈ f.way path, ∃ y ∈ f.way (tokenOf configFile stateDirectory), x <+: y) ∨
      f.Strips stateDirectory q := by
  have hstrips' := hstrips
  obtain ⟨hroot, l, e, hstat, hl, -⟩ := hstrips'
  cases htarget with
  | state => exact .inr hstrips
  | config =>
    refine .inl (covered_of_front hstat hl hq fun front last hsteps x hx => ?_)
    rcases Path.steps_directoryOf path with hnone | ⟨last', hsteps', habs⟩
    · rw [hnone] at hsteps
      exact absurd hsteps.symm (by simp)
    · obtain ⟨rfl, -⟩ := List.append_inj' (hsteps.symm.trans hsteps') rfl
      refine ⟨x, ?_, List.prefix_rfl⟩
      rw [way_token, Files.start, habs]
      exact Files.mem_trail_append hx
  | status =>
    have hname : Path.IsName "status.json" := by decide
    by_cases hempty : stateDirectory = ""
    · subst hempty
      refine .inl (covered_of_front hstat hl hq fun front last hsteps x hx => ?_)
      have hend := (Files.locate_eq_ok (Files.stat_eq_ok.1 hstat).1).1
      rw [Files.start_join hname, Path.steps_join hname, Files.ending_join hname] at hend
      rw [Path.steps_join hname] at hsteps
      obtain ⟨rfl, -⟩ := List.append_inj' (hsteps.symm) rfl
      rw [Files.start_join hname] at hx
      obtain rfl := List.mem_singleton.1 hx
      refine ⟨q, hq, List.IsPrefix.trans ?_ hl⟩
      rw [hend]
      exact List.prefix_append _ _
    · right
      obtain ⟨d, mode, hstate, rfl⟩ :=
        Files.stat_of_locate_join hname hempty (Files.stat_eq_ok.1 hstat).1
      refine ⟨hroot, d, _, hstate, (List.prefix_append d _).trans hl, fun heq _ => ?_⟩
      have hlength := hl.length_le
      rw [heq, List.length_append, List.length_singleton] at hlength
      omega
  | beside hname htoken =>
    refine .inl (covered_of_front hstat hl hq fun front last hsteps x hx => ?_)
    rw [Path.steps_join hname] at hsteps
    obtain ⟨rfl, -⟩ := List.append_inj' hsteps.symm rfl
    refine ⟨x, ?_, List.prefix_rfl⟩
    rw [Files.start_join hname] at hx
    rw [way_token]
    exact Files.mem_trail_append hx

/-! ### The token -/

/-- **What a reset leaves of the token.**  What the path of the token leads to is after a reset what
it was before, or nothing in both cases, just when no removal would take away something on its way
from the tree as it is before the reset. -/
theorem stat_token_reset_iff (f : Files) (configFile stateDirectory : String) :
    (∀ found, (reset f (.ofFiles configFile stateDirectory)).2.stat
        (tokenOf configFile stateDirectory) = .ok found ↔
      f.stat (tokenOf configFile stateDirectory) = .ok found) ↔
    ((∃ found, f.stat (tokenOf configFile stateDirectory) = .ok found) →
      ∀ path ∈ resetTargets (.ofFiles configFile stateDirectory),
        ∀ q ∈ f.way (tokenOf configFile stateDirectory), ¬ f.Strips path q) := by
  have hleft := leftOf_removeAll f {} (resetTargets (.ofFiles configFile stateDirectory))
  set token := tokenOf configFile stateDirectory
  rw [← reset] at hleft
  constructor
  · rintro hsame ⟨⟨l, e⟩, hfound⟩ path hpath q hq hstrips
    have hway := (hleft.stat_iff hfound).1 ((hsame _).2 hfound)
    rcases covered_or_state (isTarget_of_mem hpath) hq hstrips with hcovered | hstate
    · obtain ⟨y, hy, hgone⟩ := exists_gone (r := {}) (.refl f) hpath hcovered hq hstrips
      exact hway y hy hgone
    · -- the state directory goes first, from the tree as it is
      have hgone := (Files.get?_remove f stateDirectory q).1 hstate
      refine hway q hq ?_
      rw [reset, resetTargets, removeAll_cons]
      exact (leftOf_removeAll _ _ _).get?_eq_none hgone
  · rintro hnone ⟨l, e⟩
    refine ⟨hleft.stat, fun hfound => (hleft.stat_iff hfound).2 fun x hx => ?_⟩
    have hkept := get?_removeAll (r := {}) (.refl f) fun path hpath =>
      hnone ⟨_, hfound⟩ path hpath x hx
    rw [reset, hkept]
    exact Files.get?_ne_none_of_stat hfound hx

example : (reset { entries := [(["etc"], .directory 0o755),
      (["etc", "provisioning.jwt"], .file [1] 0o600)] } (.ofFiles "/etc/server.conf" "/etc")).2.read
    "/etc/provisioning.jwt" = .error .notFound := by decide +kernel

/-! ### Plain configuration paths -/

/-- A path to a file that is not the token, without any step up. -/
structure IsPlain (configFile : String) : Prop where
  noUp : ".." ∉ Path.steps configFile
  hasLast : Path.steps configFile ≠ []
  notToken : (Path.steps configFile).getLast? ≠ some "provisioning.jwt"

lemma ending_of_plain {here : Location} {names : List String} (hup : ".." ∉ names) :
    Files.ending here names = here ++ names := by
  induction names using List.reverseRecOn with
  | nil => simp [Files.ending]
  | append_singleton names name ih =>
    obtain ⟨hnames, hname⟩ := not_or.1 (mt List.mem_append.2 hup)
    have hne : name ≠ ".." := fun h => hname (by simp [h])
    rw [Files.ending_concat, ih hnames, Files.step, if_neg hne, List.append_assoc]

lemma prefix_of_mem_trail {here : Location} {names : List String} (hup : ".." ∉ names)
    (hx : x ∈ Files.trail here names) : x <+: here ++ names := by
  induction names generalizing here with
  | nil =>
    obtain rfl := List.mem_singleton.1 hx
    exact List.prefix_append _ _
  | cons name names ih =>
    obtain ⟨hname, hnames⟩ := not_or.1 (mt List.mem_cons.2 hup)
    rcases List.mem_cons.1 hx with rfl | hx
    · exact List.prefix_append _ _
    · have hstep := ih hnames hx
      rwa [Files.step, if_neg (Ne.symm hname), List.append_assoc] at hstep

/-- A name beside the token leads neither to the token nor to anything above it. -/
lemma not_prefix_of_beside {here : Location} {names : List String} {name : String}
    (hup : ".." ∉ names) (hname : name ≠ "provisioning.jwt")
    (hq : q ∈ Files.trail here (names ++ ["provisioning.jwt"])) :
    ¬ here ++ (names ++ [name]) <+: q := by
  intro hl
  have hup' : ".." ∉ names ++ ["provisioning.jwt"] := by simpa using hup
  have hboth := hl.trans (prefix_of_mem_trail hup' hq)
  have heq := hboth.eq_of_length (by simp)
  exact hname (by simpa using heq)

/-- Of the removals of a reset on a plain configuration path only those of the state directory and
of the status file can take away anything on the way to the token. -/
lemma strips_way_of_plain (hplain : IsPlain configFile)
    (htarget : IsTarget configFile stateDirectory path)
    (hq : q ∈ f.way (tokenOf configFile stateDirectory)) (hstrips : f.Strips path q) :
    path = stateDirectory ∨ path = Path.join stateDirectory "status.json" := by
  obtain ⟨-, l, e, hstat, hl, -⟩ := hstrips
  obtain ⟨hend, -⟩ := Files.locate_eq_ok (Files.stat_eq_ok.1 hstat).1
  rcases Path.steps_directoryOf configFile with hnone | ⟨last, hlast, habs⟩
  · exact absurd hnone hplain.hasLast
  have hup : ".." ∉ Path.steps (RuntimePaths.directoryOf configFile) := fun h =>
    hplain.noUp (hlast ▸ List.mem_append_left _ h)
  rw [way_token] at hq
  cases htarget with
  | state => exact .inl rfl
  | status => exact .inr rfl
  | config =>
    exfalso
    rw [ending_of_plain hplain.noUp, hlast] at hend
    have htoken : last ≠ "provisioning.jwt" := by
      rintro rfl
      exact hplain.notToken (by rw [hlast, List.getLast?_concat])
    refine not_prefix_of_beside hup htoken hq ?_
    rw [Files.start, habs, ← Files.start, ← hend]
    exact hl
  | @beside name hname htoken =>
    exfalso
    rw [Files.start_join hname, Path.steps_join hname, Files.ending_join hname,
      ending_of_plain hup, List.append_assoc] at hend
    exact not_prefix_of_beside hup htoken hq (hend ▸ hl)

/-- **The token and the state directory.**  With a plain configuration path a reset leaves the token
just when neither the state directory nor the status file is on the way to it. -/
theorem stat_token_reset_iff_of_plain (f : Files) (stateDirectory : String)
    (hplain : IsPlain configFile) :
    (∀ found, (reset f (.ofFiles configFile stateDirectory)).2.stat
        (tokenOf configFile stateDirectory) = .ok found ↔
      f.stat (tokenOf configFile stateDirectory) = .ok found) ↔
    ((∃ found, f.stat (tokenOf configFile stateDirectory) = .ok found) →
      ∀ q ∈ f.way (tokenOf configFile stateDirectory), ¬ f.Strips stateDirectory q ∧
        ¬ f.Strips (Path.join stateDirectory "status.json") q) := by
  have hstate : stateDirectory ∈ resetTargets (.ofFiles configFile stateDirectory) := by
    simp [resetTargets, RuntimePaths.ofFiles]
  have hstatus : Path.join stateDirectory "status.json"
      ∈ resetTargets (.ofFiles configFile stateDirectory) := by
    simp [resetTargets, RuntimePaths.ofFiles]
  rw [stat_token_reset_iff]
  refine imp_congr_right fun _ => ⟨fun h q hq => ⟨h _ hstate q hq, h _ hstatus q hq⟩, ?_⟩
  intro h path hpath q hq hstrips
  rcases strips_way_of_plain hplain (isTarget_of_mem hpath) hq hstrips with rfl | rfl
  · exact (h q hq).1 hstrips
  · exact (h q hq).2 hstrips

end EdgeNode
