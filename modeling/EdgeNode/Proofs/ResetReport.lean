import EdgeNode.Proofs.Reset
import Mathlib.Data.List.Perm.Basic
/-!
# What a reset reports

The targets of a reset are removed in turn, each from what those before it left (`Removals`).  The
report has every target once: as removed if it was there and its path leads nowhere now, as missing
if nothing was there at its turn, and otherwise as failed.

What a removal takes away never makes a path lead elsewhere: the path leads where it led, or to
nothing (`Files.LeftOf.stat_eq_or_notFound`).  So a target that led to nothing once does so in the
end, and with a clean report there is nothing left for a second reset.
-/

namespace EdgeNode

namespace Files

variable {f g : Files} {here l : Location} {e : Entry} {names : List String} {path : String}

/-! ### What becomes of a path -/

namespace LeftOf

/-- Names lead in the rest where they led in the whole, or to nothing. -/
lemma walk_eq_or_notFound (hleft : LeftOf f g) (here : Location) (names : List String) :
    g.walk here names = f.walk here names ∨ g.walk here names = .error .notFound := by
  induction names generalizing here with
  | nil => exact .inl rfl
  | cons name names ih =>
    by_cases hnone : g.get? here = none
    · exact .inr (by rw [walk, hnone])
    · rw [walk, walk, hleft.get?_eq hnone]
      split
      · exact .inl rfl
      · exact .inl rfl
      · split
        · exact ih here
        · split
          · exact ih here.dropLast
          · split
            · exact .inl rfl
            · exact ih (here ++ [name])

/-- A path leads in the rest to what it led to in the whole, or to nothing. -/
lemma stat_eq_or_notFound (hleft : LeftOf f g) (path : String) :
    g.stat path = f.stat path ∨ g.stat path = .error .notFound := by
  have hnames : g.namesOf path = f.namesOf path := by rw [namesOf, namesOf, hleft.current]
  unfold Files.stat locate
  rw [hnames]
  cases f.namesOf path with
  | error e => exact .inl rfl
  | ok found =>
    obtain ⟨start, names⟩ := found
    dsimp only
    rcases hleft.walk_eq_or_notFound start names with hwalk | hwalk
    · rw [hwalk]
      cases f.walk start names with
      | error e => exact .inl rfl
      | ok l =>
        dsimp only
        by_cases hnone : g.get? l = none
        · exact .inr (by rw [hnone])
        · exact .inl (by rw [hleft.get?_eq hnone])
    · exact .inr (by rw [hwalk])

lemma of_remove {result : Except FileError Unit} (h : f.remove path = (g, result)) :
    f.LeftOf g := by
  have hleft := LeftOf.remove f path
  rwa [h] at hleft

lemma stat_eq_notFound (hleft : LeftOf f g) (h : f.stat path = .error .notFound) :
    g.stat path = .error .notFound := by
  rcases hleft.stat_eq_or_notFound path with hsame | hnone
  · rw [hsame, h]
  · exact hnone

end LeftOf

/-! ### What a removal reports -/

/-- Empty names lead nowhere. -/
lemma walk_properNames (h : f.walk here names = .ok l) :
    f.walk here (properNames names) = .ok l := by
  induction names generalizing here with
  | nil => exact h
  | cons name names ih =>
    obtain ⟨hhere, hrest⟩ := walk_cons_eq_ok.1 h
    by_cases hempty : name.isEmpty = true
    · rw [if_pos (by rw [hempty]; rfl)] at hrest
      rw [properNames, List.filter_cons_of_neg (by simpa using hempty)]
      exact ih hrest
    · rw [properNames, List.filter_cons_of_pos (by simpa using hempty)]
      refine walk_cons_eq_ok.2 ⟨hhere, ?_⟩
      split at hrest
      · next hidle =>
        rw [if_pos hidle]
        exact ih hrest
      · next hidle =>
        rw [if_neg hidle]
        exact ⟨hrest.1, ih hrest.2⟩

/-- A path that leads to a directory leads to the directory that its last name is looked for in. -/
lemma exists_locateParent {mode : ℕ} (h : f.stat path = .ok (l, .directory mode)) :
    Path.Speakable path ∧
      ∃ above, f.locateParent (f.start path) (Path.names path) = .ok above := by
  obtain ⟨hlocate, hget⟩ := stat_eq_ok.1 h
  unfold locate at hlocate
  split at hlocate
  · contradiction
  · next hnames =>
    obtain ⟨hspeak, rfl, rfl⟩ := namesOf_eq_ok.1 hnames
    have hwalk := walk_properNames hlocate
    obtain ⟨above, mode', habove, hmode⟩ : ∃ above mode',
        f.walk (f.start path) (properNames (Path.names path)).dropLast = .ok above ∧
          f.get? above = some (.directory mode') := by
      rcases List.eq_nil_or_concat' (properNames (Path.names path)) with hnil | ⟨front, last, hlast⟩
      · rw [hnil] at hwalk ⊢
        exact ⟨l, mode, hwalk, hget⟩
      · rw [hlast] at hwalk ⊢
        rw [List.dropLast_concat]
        obtain ⟨above, habove, hend⟩ := walk_append.1 hwalk
        obtain ⟨⟨mode', hmode⟩, -⟩ := walk_cons_eq_ok.1 hend
        exact ⟨above, mode', habove, hmode⟩
    exact ⟨hspeak, above, by simp only [locateParent, habove, hmode]⟩

/-- A directory that can be taken away is not the root. -/
lemma ne_nil_of_givesWay (hstat : f.stat path = .ok (l, e)) (hgives : g.GivesWay path) :
    l ≠ [] := by
  obtain ⟨above, name, -, -, hlast, hdot, hup⟩ := hgives
  obtain ⟨front, hfront⟩ := List.getLast?_eq_some_iff.1 hlast
  have hsolid : name.isEmpty = false := by
    have hmem : name ∈ properNames (Path.names path) := by rw [hfront]; simp
    simpa using (List.mem_filter.1 hmem).2
  have hsteps : Path.steps path = liveNames front ++ [name] := by
    rw [← liveNames_names, ← liveNames_properNames, hfront, liveNames, List.filter_append]
    simp [liveNames, hsolid, hdot]
  obtain ⟨hend, -⟩ := locate_eq_ok (stat_eq_ok.1 hstat).1
  rw [hend, hsteps, ending_concat, step, if_neg hup]
  simp

/-- Where the directory of a path counts as taken away, it could be taken away or is looked for in
nothing. -/
lemma of_removeEmptyDirectory_eq_ok (h : f.removeEmptyDirectory path l = .ok g) :
    f.GivesWay path ∨
      g = f ∧ f.locateParent (f.start path) (Path.names path) = .error .notFound := by
  by_cases hgives : f.GivesWay path
  · exact .inl hgives
  right
  unfold removeEmptyDirectory at h
  split at h
  · contradiction
  · next hnames =>
    obtain ⟨hspeak, rfl, rfl⟩ := namesOf_eq_ok.1 hnames
    split at h
    · next habove =>
      split at h
      · next hnone =>
        obtain rfl := Except.ok.inj h
        exact ⟨rfl, hnone ▸ habove⟩
      · contradiction
    · next above habove =>
      split at h
      · contradiction
      · next name hlast =>
        split at h
        · contradiction
        · next hdot =>
          split at h
          · contradiction
          · next hup => exact absurd ⟨above, name, hspeak, habove, hlast, hdot, hup⟩ hgives

/-- That nothing is found is no reason for a directory to stay. -/
lemma removeEmptyDirectory_ne_notFound (hspeak : Path.Speakable path) :
    f.removeEmptyDirectory path l ≠ .error .notFound := by
  unfold removeEmptyDirectory
  rw [namesOf_eq_ok.2 ⟨hspeak, rfl, rfl⟩]
  dsimp only
  split
  · split
    · simp
    · next hne => simpa using hne
  · split
    · decide
    · split
      · decide
      · split
        · decide
        · simp

/-- How the removal of a path ends. -/
inductive Removal (f : Files) (path : String) : Files × Except FileError Unit → Prop where
  /-- Something was there, and the path leads to nothing now. -/
  | removed {g : Files} {found : Location × Entry} (hfound : f.stat path = .ok found)
      (hgone : g.stat path = .error .notFound) : Removal f path (g, .ok ())
  /-- Nothing was there. -/
  | missing (hnone : f.stat path = .error .notFound) : Removal f path (f, .error .notFound)
  /-- It failed for another reason. -/
  | failed {g : Files} {e : FileError} (hreason : e ≠ .notFound) : Removal f path (g, .error e)

/-- When the directory that a path leads to counts as taken away, the path leads to nothing. -/
lemma stat_of_removeEmptyDirectory {mode : ℕ} (hstat : f.stat path = .ok (l, .directory mode))
    (hremove : (f.cutBelow l).removeEmptyDirectory path l = .ok g) (hleft : f.LeftOf g) :
    g.stat path = .error .notFound := by
  refine (hleft.stat_eq_or_notFound path).resolve_left fun hsame => ?_
  rw [hstat] at hsame
  rcases of_removeEmptyDirectory_eq_ok hremove with hgives | ⟨rfl, hnone⟩
  · -- nothing stands where the path would lead
    have hcut := removeEmptyDirectory_of_givesWay (l := l) hgives
    obtain rfl := Except.ok.inj (hremove.symm.trans hcut)
    have hget := (stat_eq_ok.1 hsame).2
    rw [get?_cut (ne_nil_of_givesWay hstat hgives), if_pos List.prefix_rfl] at hget
    contradiction
  · -- the path went through what lay below its end
    obtain ⟨-, above, habove⟩ := exists_locateParent hsame
    rw [hnone] at habove
    contradiction

lemma removal_remove (f : Files) (path : String) : Removal f path (f.remove path) := by
  have hleft := LeftOf.remove f path
  cases hstat : f.stat path with
  | error e =>
    have hremove : f.remove path = (f, .error e) := by
      simp [remove, isDirectory, removeFile, hstat]
    rw [hremove]
    by_cases he : e = .notFound
    · subst he
      exact .missing hstat
    · exact .failed he
  | ok found =>
    obtain ⟨l, ⟨content, mode⟩ | mode⟩ := found
    · have hremove : f.remove path = (f.cut l, .ok ()) := by
        simp [remove, isDirectory, Entry.isDirectory, removeFile, hstat]
      rw [hremove] at hleft ⊢
      refine .removed hstat ((hleft.stat_eq_or_notFound path).resolve_left fun hsame => ?_)
      rw [hstat] at hsame
      have hget := (stat_eq_ok.1 hsame).2
      have hroot : l ≠ [] := by
        rintro rfl
        simp at hget
      rw [get?_cut hroot, if_pos List.prefix_rfl] at hget
      contradiction
    · have hremove : f.remove path = f.removeDirectory path := by
        simp [remove, isDirectory, Entry.isDirectory, hstat]
      rw [hremove] at hleft ⊢
      simp only [removeDirectory, hstat] at hleft ⊢
      cases hempty : (f.cutBelow l).removeEmptyDirectory path l with
      | ok g =>
        rw [hempty] at hleft
        exact .removed hstat (stat_of_removeEmptyDirectory hstat hempty hleft)
      | error e =>
        refine .failed ?_
        rintro rfl
        exact removeEmptyDirectory_ne_notFound (exists_locateParent hstat).1 hempty

end Files

open Files (LeftOf Removal)

variable {f g left : Files} {path : String} {targets : List String} {r r' : ResetReport}

/-! ### Removals in turn -/

/-- What the removals of paths in turn report and leave. -/
inductive Removals : Files → List String → ResetReport → Files → Prop where
  | nil {f : Files} : Removals f [] {} f
  /-- The first was there, and is no more. -/
  | removed {f g left : Files} {path : String} {targets : List String} {r : ResetReport}
      {found : Location × Entry} (hremove : f.remove path = (g, .ok ()))
      (hfound : f.stat path = .ok found) (hgone : g.stat path = .error .notFound)
      (hrest : Removals g targets r left) :
      Removals f (path :: targets) { r with removed := path :: r.removed } left
  /-- Nothing was there for the first. -/
  | missing {f left : Files} {path : String} {targets : List String} {r : ResetReport}
      (hnone : f.stat path = .error .notFound) (hrest : Removals f targets r left) :
      Removals f (path :: targets) { r with missing := path :: r.missing } left
  /-- The first could not be removed. -/
  | failed {f g left : Files} {path : String} {targets : List String} {r : ResetReport}
      {e : FileError} (hremove : f.remove path = (g, .error e)) (hreason : e ≠ .notFound)
      (hrest : Removals g targets r left) :
      Removals f (path :: targets) { r with failed := (path, e) :: r.failed } left

/-- A report that goes on with another. -/
def ResetReport.append (r r' : ResetReport) : ResetReport where
  removed := r.removed ++ r'.removed
  missing := r.missing ++ r'.missing
  failed := r.failed ++ r'.failed

lemma exists_removals (f : Files) (r : ResetReport) (targets : List String) :
    ∃ r', Removals f targets r' (removeAll f r targets).2 ∧
      (removeAll f r targets).1 = r.append r' := by
  induction targets generalizing f r with
  | nil => exact ⟨{}, .nil, by simp [removeAll, ResetReport.append]⟩
  | cons path targets ih =>
    have hremoval := Files.removal_remove f path
    rw [removeAll_cons]
    generalize hremove : f.remove path = after at hremoval
    cases hremoval with
    | @removed g found hfound hgone =>
      obtain ⟨r', hrest, hreport⟩ := ih g (r.add path (.ok ()))
      refine ⟨_, .removed hremove hfound hgone hrest, hreport.trans ?_⟩
      simp only [ResetReport.append, ResetReport.add, List.append_assoc,
        List.singleton_append]
    | missing hnone =>
      obtain ⟨r', hrest, hreport⟩ := ih f (r.add path (.error .notFound))
      refine ⟨_, .missing hnone hrest, hreport.trans ?_⟩
      simp only [ResetReport.append, ResetReport.add, if_true, List.append_assoc,
        List.singleton_append]
    | @failed g e hreason =>
      obtain ⟨r', hrest, hreport⟩ := ih g (r.add path (.error e))
      refine ⟨_, .failed hremove hreason hrest, hreport.trans ?_⟩
      simp only [ResetReport.append, ResetReport.add, hreason, if_false,
        List.append_assoc, List.singleton_append]

lemma removals_removeAll (f : Files) (targets : List String) :
    Removals f targets (removeAll f {} targets).1 (removeAll f {} targets).2 := by
  obtain ⟨r', hremovals, hreport⟩ := exists_removals f {} targets
  have hsame : ({} : ResetReport).append r' = r' := rfl
  rw [hreport, hsame]
  exact hremovals

namespace Removals

lemma leftOf (h : Removals f targets r left) : f.LeftOf left := by
  induction h with
  | nil => exact .refl _
  | removed hremove _ _ _ ih => exact (LeftOf.of_remove hremove).trans ih
  | missing _ _ ih => exact ih
  | failed hremove _ _ ih => exact (LeftOf.of_remove hremove).trans ih

/-- Every target is reported once. -/
lemma perm (h : Removals f targets r left) :
    (r.removed ++ r.missing ++ r.failed.map Prod.fst).Perm targets := by
  induction h with
  | nil => exact .nil
  | removed _ _ _ _ ih => exact ih.cons _
  | missing _ _ ih =>
    exact (List.perm_middle.append_right _).trans (ih.cons _)
  | failed _ _ _ ih => exact List.perm_middle.trans (ih.cons _)

/-- What was removed was there, and is there no more. -/
lemma of_mem_removed (h : Removals f targets r left) (hpath : path ∈ r.removed) :
    (∃ found, f.stat path = .ok found) ∧ left.stat path = .error .notFound := by
  induction h with
  | nil => contradiction
  | removed hremove hfound hgone hrest ih =>
    rcases List.mem_cons.1 hpath with rfl | hpath
    · exact ⟨⟨_, hfound⟩, hrest.leftOf.stat_eq_notFound hgone⟩
    · exact (ih hpath).imp_left fun ⟨_, hfound⟩ => ⟨_, (LeftOf.of_remove hremove).stat hfound⟩
  | missing _ _ ih => exact ih hpath
  | failed hremove _ _ ih =>
    exact (ih hpath).imp_left fun ⟨_, hfound⟩ => ⟨_, (LeftOf.of_remove hremove).stat hfound⟩

lemma of_mem_missing (h : Removals f targets r left) (hpath : path ∈ r.missing) :
    left.stat path = .error .notFound := by
  induction h with
  | nil => contradiction
  | removed _ _ _ _ ih => exact ih hpath
  | missing hnone hrest ih =>
    rcases List.mem_cons.1 hpath with rfl | hpath
    · exact hrest.leftOf.stat_eq_notFound hnone
    · exact ih hpath
  | failed _ _ _ ih => exact ih hpath

/-- With a clean report nothing is left of the targets. -/
lemma stat_of_clean (h : Removals f targets r left) (hclean : r.isClean = true)
    (hpath : path ∈ targets) : left.stat path = .error .notFound := by
  have hfailed : r.failed = [] := List.isEmpty_iff.1 hclean
  have hreported : path ∈ r.removed ++ r.missing ++ r.failed.map Prod.fst := h.perm.mem_iff.2 hpath
  rw [hfailed, List.map_nil, List.append_nil] at hreported
  rcases List.mem_append.1 hreported with hremoved | hmissing
  · exact (h.of_mem_removed hremoved).2
  · exact h.of_mem_missing hmissing

end Removals

/-- Where nothing is left of the targets, all are missing and nothing is done. -/
lemma removeAll_of_notFound (h : ∀ path ∈ targets, f.stat path = .error .notFound) :
    removeAll f r targets = ({ r with missing := r.missing ++ targets }, f) := by
  induction targets generalizing r with
  | nil => simp [removeAll]
  | cons path targets ih =>
    obtain ⟨hnone, hrest⟩ := List.forall_mem_cons.1 h
    have hremove : f.remove path = (f, .error .notFound) := by
      simp [Files.remove, Files.isDirectory, Files.removeFile, hnone]
    rw [removeAll_cons, hremove, ih hrest]
    simp [ResetReport.add]

/-! ### A reset -/

/-- A location is none that the paths lead to, and in no directory that they lead to. -/
def IsOutside (f : Files) (paths : List String) (q : Location) : Prop :=
  ∀ path ∈ paths, ∀ l e, f.stat path = .ok (l, e) → ¬ l <+: q

/-- **A reset accounts for every target and touches nothing else.**  The report has each target
once, by what came of it in its turn: what was removed was there and is there no more, and for what
is missing there was nothing.  All that is no target and in no target stays as it was, and so does
what a path leads to whose way is outside.  When the report is clean, nothing is left of any target,
and a second reset finds all of them missing and changes nothing. -/
theorem reset_accounted (f : Files) (p : RuntimePaths) :
    let report := (reset f p).1
    let left := (reset f p).2
    Removals f (resetTargets p) report left ∧
    (report.removed ++ report.missing ++ report.failed.map Prod.fst).Perm (resetTargets p) ∧
    (∀ path ∈ report.removed,
      (∃ found, f.stat path = .ok found) ∧ left.stat path = .error .notFound) ∧
    (∀ path ∈ report.missing, left.stat path = .error .notFound) ∧
    left.current = f.current ∧
    (∀ q, IsOutside f (resetTargets p) q → left.get? q = f.get? q) ∧
    (∀ path, (∀ q ∈ f.way path, IsOutside f (resetTargets p) q) → left.stat path = f.stat path) ∧
    (report.isClean = true → (∀ path ∈ resetTargets p, left.stat path = .error .notFound) ∧
      reset left p = ({ missing := resetTargets p }, left)) := by
  intro report left
  have hremovals : Removals f (resetTargets p) report left := removals_removeAll f (resetTargets p)
  have houtside : ∀ q, IsOutside f (resetTargets p) q → left.get? q = f.get? q := fun q hq =>
    get?_removeAll (.refl f) fun path hpath ⟨_, l, e, hstat, hl, _⟩ => hq path hpath l e hstat hl
  refine ⟨hremovals, hremovals.perm, fun path hpath => hremovals.of_mem_removed hpath,
    fun path hpath => hremovals.of_mem_missing hpath, hremovals.leftOf.current, houtside,
    fun path hway => ?_, fun hclean => ?_⟩
  · exact Files.stat_congr hremovals.leftOf.current fun q hq => houtside q (hway q hq)
  · have hgone : ∀ path ∈ resetTargets p, left.stat path = .error .notFound := fun path hpath =>
      hremovals.stat_of_clean hclean hpath
    refine ⟨hgone, ?_⟩
    rw [reset, removeAll_of_notFound hgone, List.nil_append]

/-- The status file goes with the state directory, and is missing when its turn comes. -/
theorem reset_accounted_status :
    let f : Files := { entries := [
      (["etc"], .directory 0o755), (["etc", "node.conf"], .file [1] 0o600),
      (["var"], .directory 0o755), (["var", "status.json"], .file [2] 0o644)] }
    let p := RuntimePaths.ofFiles "/etc/node.conf" "/var"
    let left := (reset f p).2
    (reset f p).1.removed = ["/var", "/etc/node.conf"] ∧
      "/var/status.json" ∈ (reset f p).1.missing ∧ (reset f p).1.isClean = true ∧
      (∀ path ∈ resetTargets p, left.stat path = .error .notFound) ∧
      reset left p = ({ missing := resetTargets p }, left) := by
  intro f p left
  have hclean : (reset f p).1.isClean = true := by decide +kernel
  obtain ⟨hgone, hagain⟩ := (reset_accounted f p).2.2.2.2.2.2.2 hclean
  exact ⟨by decide +kernel, by decide +kernel, hclean, hgone, hagain⟩

end EdgeNode
