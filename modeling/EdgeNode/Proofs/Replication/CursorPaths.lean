import EdgeNode.Proofs.Node.Issued
import EdgeNode.Proofs.Replication.Validation
/-!
# Where cursors are kept

The path of a cursor is put together from the state directory, the name of the site and the name of
the job, and nobody looks at what these names are.  A name that starts at the root takes the place
of all before it, and one with steps up leads out again.  `ReplicationTopology.cursors_apart` says
exactly when a cursor lies below the state directory and when two jobs share one; with a plain site
and plain names of jobs each cursor does lie there, and each job has its own.
-/

namespace EdgeNode

namespace Path

variable {base dir path path' name text : String}

/-- Two paths lead the same way: they start from the same place and take the same steps. -/
def Alike (path path' : String) : Prop :=
  isAbsolute path = isAbsolute path' ∧ steps path = steps path'

/-- A path goes on from a directory, and never up. -/
def LiesBelow (path dir : String) : Prop :=
  isAbsolute path = isAbsolute dir ∧
    ∃ further, further ≠ [] ∧ ".." ∉ further ∧ steps path = steps dir ++ further

instance : Decidable (Alike path path') :=
  inferInstanceAs (Decidable (_ ∧ _))

lemma join_of_absolute (h : isAbsolute name = true) : join base name = name :=
  if_pos h

/-- A path that goes on from a directory lies below it when it goes anywhere and never up. -/
lemma liesBelow_iff {further : List String} (hstart : isAbsolute path = isAbsolute dir)
    (hsteps : steps path = steps dir ++ further) :
    LiesBelow path dir ↔ further ≠ [] ∧ ".." ∉ further := by
  constructor
  · rintro ⟨-, further', hne, hup, hsteps'⟩
    obtain rfl := List.append_cancel_left (hsteps.symm.trans hsteps')
    exact ⟨hne, hup⟩
  · rintro ⟨hne, hup⟩
    exact ⟨hstart, further, hne, hup, hsteps⟩

/-- Paths in one directory are alike when what is joined to it takes the same steps. -/
lemma alike_join_iff (h : isAbsolute name = false) (h' : isAbsolute text = false) :
    Alike (join base name) (join base text) ↔ steps name = steps text := by
  rw [Alike, isAbsolute_join_of_relative h, isAbsolute_join_of_relative h',
    steps_join_of_relative h, steps_join_of_relative h']
  exact ⟨fun hboth => List.append_cancel_left hboth.2, fun hsteps => ⟨rfl, by rw [hsteps]⟩⟩

/-- A document starts from where its name does. -/
lemma isAbsolute_json (text : String) : isAbsolute (text ++ ".json") = isAbsolute text := by
  unfold isAbsolute
  rw [String.toList_append]
  cases text.toList <;> rfl

/-- A document is no directory, so there is a step to it. -/
lemma steps_json_ne_nil (text : String) : steps (text ++ ".json") ≠ [] := by
  -- joined to nothing, a name is as it was
  obtain ⟨name, ⟨-, above, hsteps⟩, -⟩ := leadsElsewhere_json "" text
  have hjoin : join "" (text ++ ".json") = text ++ ".json" := by
    unfold join
    simp
  rw [hjoin] at hsteps
  rw [hsteps]
  simp

lemma steps_json_of_slashless (h : '/' ∉ text.toList) :
    steps (text ++ ".json") = [text ++ ".json"] := by
  rw [steps, (isName_json h).live_eq]
  simp

end Path

namespace ReplicationTopology

open EdgeNode.Path (LiesBelow Alike isAbsolute steps)

variable {t : ReplicationTopology} {j j' : ReplicationJob}

/-- The file that a job keeps its cursor in, as it is joined to the directory of the site. -/
def cursorFile (j : ReplicationJob) : String :=
  j.name ++ ".json"

lemma cursorPath_eq (t : ReplicationTopology) (j : ReplicationJob) :
    t.cursorPath j = Path.join (Path.join t.stateDirectory t.name) (cursorFile j) := rfl

/-- A name that starts at the root takes the place of the state directory. -/
lemma cursorPath_of_absolute (h : isAbsolute t.name = true ∨ isAbsolute j.name = true) :
    t.cursorPath j = Path.join t.name (cursorFile j) := by
  rw [cursorPath_eq]
  rcases h with hsite | hname
  · rw [Path.join_of_absolute hsite]
  · have hfile : isAbsolute (cursorFile j) = true := by
      rw [cursorFile, Path.isAbsolute_json, hname]
    rw [Path.join_of_absolute hfile, Path.join_of_absolute hfile]

/-- With names that start nowhere in particular, a cursor lies below the state directory unless one
of them goes up. -/
lemma liesBelow_cursorPath_iff (hsite : isAbsolute t.name = false)
    (hname : isAbsolute j.name = false) :
    LiesBelow (t.cursorPath j) t.stateDirectory ↔
      ".." ∉ steps t.name ∧ ".." ∉ steps (cursorFile j) := by
  have hfile : isAbsolute (cursorFile j) = false := by
    rw [cursorFile, Path.isAbsolute_json, hname]
  have hstart : isAbsolute (t.cursorPath j) = isAbsolute t.stateDirectory := by
    rw [cursorPath_eq, Path.isAbsolute_join_of_relative hfile,
      Path.isAbsolute_join_of_relative hsite]
  have hsteps : steps (t.cursorPath j)
      = steps t.stateDirectory ++ (steps t.name ++ steps (cursorFile j)) := by
    rw [cursorPath_eq, Path.steps_join_of_relative hfile, Path.steps_join_of_relative hsite,
      List.append_assoc]
  have hne : steps t.name ++ steps (cursorFile j) ≠ [] := fun h =>
    Path.steps_json_ne_nil j.name (List.append_eq_nil_iff.1 h).2
  rw [Path.liesBelow_iff hstart hsteps, and_iff_right hne, List.mem_append, not_or]

/-- Jobs whose names start alike share a cursor when their files take the same steps. -/
lemma alike_cursorPath_iff (h : isAbsolute j.name = isAbsolute j'.name) :
    Alike (t.cursorPath j) (t.cursorPath j') ↔ steps (cursorFile j) = steps (cursorFile j') := by
  have hfile : isAbsolute (cursorFile j) = isAbsolute j.name := Path.isAbsolute_json j.name
  have hfile' : isAbsolute (cursorFile j') = isAbsolute j'.name := Path.isAbsolute_json j'.name
  rw [cursorPath_eq, cursorPath_eq]
  cases hname : isAbsolute j.name with
  | false => exact Path.alike_join_iff (hfile.trans hname) (hfile'.trans (h.symm.trans hname))
  | true =>
    rw [Path.join_of_absolute (hfile.trans hname),
      Path.join_of_absolute (hfile'.trans (h.symm.trans hname)), Alike, hfile, hfile']
    exact and_iff_right h

/-- A job whose name starts at the root shares the cursor of another when it leads there. -/
lemma alike_cursorPath_absolute_iff (hname : isAbsolute j.name = true)
    (hname' : isAbsolute j'.name = false) :
    Alike (t.cursorPath j) (t.cursorPath j') ↔
      isAbsolute (Path.join t.stateDirectory t.name) = true ∧
        steps (cursorFile j)
          = steps (Path.join t.stateDirectory t.name) ++ steps (cursorFile j') := by
  have hfile : isAbsolute (cursorFile j) = true := by
    rw [cursorFile, Path.isAbsolute_json, hname]
  have hfile' : isAbsolute (cursorFile j') = false := by
    rw [cursorFile, Path.isAbsolute_json, hname']
  rw [cursorPath_eq, cursorPath_eq, Path.join_of_absolute hfile, Alike, hfile,
    Path.isAbsolute_join_of_relative hfile', Path.steps_join_of_relative hfile', eq_comm]

/-! ### Names without slashes -/

lemma isAbsolute_of_slashless {text : String} (h : '/' ∉ text.toList) :
    isAbsolute text = false := by
  rw [isAbsolute, beq_eq_false_iff_ne]
  exact fun hhead => h (List.mem_of_mem_head? hhead)

lemma cursorFile_injective (h : cursorFile j = cursorFile j') : j.name = j'.name := by
  rw [cursorFile, cursorFile, ← String.toList_inj, String.toList_append, String.toList_append] at h
  exact String.toList_inj.1 (List.append_cancel_right h)

lemma not_alike_of_slashless (hname : '/' ∉ j.name.toList) (hname' : '/' ∉ j'.name.toList)
    (hne : j.name ≠ j'.name) : ¬ Alike (t.cursorPath j) (t.cursorPath j') := by
  have hstart : isAbsolute j.name = isAbsolute j'.name := by
    rw [isAbsolute_of_slashless hname, isAbsolute_of_slashless hname']
  rw [alike_cursorPath_iff hstart, cursorFile, cursorFile, Path.steps_json_of_slashless hname,
    Path.steps_json_of_slashless hname']
  exact fun h => hne (cursorFile_injective (List.singleton_inj.1 h))

lemma up_notMem_of_slashless (hname : '/' ∉ j.name.toList) : ".." ∉ steps (cursorFile j) := by
  rw [cursorFile, Path.steps_json_of_slashless hname, List.mem_singleton]
  exact (Path.isName_json hname).notUp.symm

/-- **Where cursors are kept.**  A cursor lies below the state directory unless a name goes up, or
starts at the root and leads elsewhere; two jobs share a cursor when their names lead to the same
file.  Jobs whose names have no slash never do, and with a site that neither starts at the root nor
goes up their cursors all lie below the state directory. -/
theorem cursors_apart (ht : t.validate = .ok ()) :
    (∀ j ∈ t.jobs, LiesBelow (t.cursorPath j) t.stateDirectory ↔
      if isAbsolute t.name ∨ isAbsolute j.name then
        LiesBelow (Path.join t.name (cursorFile j)) t.stateDirectory
      else ".." ∉ steps t.name ∧ ".." ∉ steps (cursorFile j)) ∧
    (∀ j ∈ t.jobs, ∀ j' ∈ t.jobs, isAbsolute j.name = isAbsolute j'.name →
      (Alike (t.cursorPath j) (t.cursorPath j') ↔ steps (cursorFile j) = steps (cursorFile j'))) ∧
    (∀ j ∈ t.jobs, ∀ j' ∈ t.jobs, isAbsolute j.name = true → isAbsolute j'.name = false →
      (Alike (t.cursorPath j) (t.cursorPath j') ↔
        isAbsolute (Path.join t.stateDirectory t.name) = true ∧
          steps (cursorFile j)
            = steps (Path.join t.stateDirectory t.name) ++ steps (cursorFile j'))) ∧
    ((∀ j ∈ t.jobs, '/' ∉ j.name.toList) →
      t.jobs.Pairwise (fun j j' => ¬ Alike (t.cursorPath j) (t.cursorPath j')) ∧
      (isAbsolute t.name = false → ".." ∉ steps t.name →
        ∀ j ∈ t.jobs, LiesBelow (t.cursorPath j) t.stateDirectory)) := by
  refine ⟨fun j _ => ?_, fun j _ j' _ => alike_cursorPath_iff,
    fun j _ j' _ => alike_cursorPath_absolute_iff, fun hnames => ⟨?_, fun hsite hup j hj => ?_⟩⟩
  · split
    · next habsolute => rw [cursorPath_of_absolute habsolute]
    · next hrelative =>
      obtain ⟨hsite, hname⟩ := not_or.1 hrelative
      exact liesBelow_cursorPath_iff (Bool.eq_false_iff.2 hsite) (Bool.eq_false_iff.2 hname)
  · -- without slashes a name is one step, so different names are different steps
    have hdistinct := List.pairwise_map.1 (fit_of_validate ht).2.2.distinct
    exact hdistinct.imp_of_mem fun hj hj' hne =>
      not_alike_of_slashless (hnames _ hj) (hnames _ hj') hne
  · have hname := hnames j hj
    exact (liesBelow_cursorPath_iff hsite (isAbsolute_of_slashless hname)).2
      ⟨hup, up_notMem_of_slashless hname⟩

/-- Two jobs of a site called `..`; the second name has a step more than the first, which leads
nowhere. -/
def upwardSite : ReplicationTopology where
  name := ".."
  stateDirectory := "/state/replicator"
  credentials := ⟨"/etc/server.seed", "/etc/server.jwt", defaultCollective⟩
  jobs := [.toBackend "a" "A" "ALL" "nats://backend:4222" none,
    .toBackend "./a" "B" "ALL" "nats://backend:4222" none]

/-- Its cursors lie beside the directory, and they are one file. -/
theorem cursors_apart_upward :
    upwardSite.validate = .ok () ∧
    (∀ j ∈ upwardSite.jobs, ¬ LiesBelow (upwardSite.cursorPath j) "/state/replicator") ∧
    ∀ j ∈ upwardSite.jobs, ∀ j' ∈ upwardSite.jobs,
      Alike (upwardSite.cursorPath j) (upwardSite.cursorPath j') := by
  have hvalid : upwardSite.validate = .ok () := by decide +kernel
  obtain ⟨hbelow, halike, -⟩ := cursors_apart hvalid
  refine ⟨hvalid, fun j hj => ?_, fun j hj j' hj' => ?_⟩
  · have hrelative : ∀ i ∈ upwardSite.jobs,
        ¬ (isAbsolute upwardSite.name = true ∨ isAbsolute i.name = true) := by
      decide +kernel
    rw [show "/state/replicator" = upwardSite.stateDirectory from rfl, hbelow j hj,
      if_neg (hrelative j hj)]
    exact fun hup => hup.1 (by decide +kernel)
  · have hsame : ∀ i ∈ upwardSite.jobs, ∀ i' ∈ upwardSite.jobs,
        isAbsolute i.name = isAbsolute i'.name ∧ steps (cursorFile i) = steps (cursorFile i') := by
      decide +kernel
    exact (halike j hj j' hj' (hsame j hj j' hj').1).2 (hsame j hj j' hj').2

end ReplicationTopology

end EdgeNode
