import EdgeNode.Proofs.Files.Ways
/-!
# What a removal takes away

`Files.Strips` says when the removal of a path takes away what stands at a location: the path leads
to it or to something above it, and where it is the directory that the path leads to, the last name
of the path is found again once nothing is left below.  A removal takes away that and nothing else
(`get?_remove_of_strips`, `get?_remove_of_not_strips`).

`Files.LeftOf` is what a number of removals leaves of a tree.  What a path leads to there it led to
before, and a path still leads there as long as its way is left.
-/

namespace EdgeNode.Files

variable {f g : Files} {l q : Location} {path : String}

/-- The directory that a path leads to can be taken away: it is looked for by the last name of the
path, which must be neither a dot nor two. -/
def GivesWay (f : Files) (path : String) : Prop :=
  ∃ above name, Path.Speakable path ∧
    f.locateParent (f.start path) (Path.names path) = .ok above ∧
    (properNames (Path.names path)).getLast? = some name ∧ name ≠ "." ∧ name ≠ ".."

/-- The removal of a path takes away what stands at a location. -/
def Strips (f : Files) (path : String) (q : Location) : Prop :=
  q ≠ [] ∧ ∃ l e, f.stat path = .ok (l, e) ∧ l <+: q ∧
    (q = l → e.isDirectory → (f.cutBelow l).GivesWay path)

/-- What is left of a tree when some of its files and directories were taken away, each with all
that lay below it. -/
structure LeftOf (f g : Files) : Prop where
  current : g.current = f.current
  kept : ∀ x e, g.get? x = some e → f.get? x = some e
  below : ∀ x y, x <+: y → f.get? x ≠ none → g.get? x = none → g.get? y = none

/-! ### One removal -/

lemma get?_filter (p : Location → Bool) (hq : q ≠ []) :
    ({ f with entries := f.entries.filter fun e => p e.1 } : Files).get? q
      = if p q then f.get? q else none := by
  have hsome : q.isEmpty = false := by simpa using hq
  simp only [get?, hsome, Bool.false_eq_true, if_false, List.find?_filter]
  split
  · next hp =>
    congr 2
    funext e
    by_cases he : e.1 = q
    · simp [he, hp]
    · simp [he]
  · next hp =>
    rw [List.find?_eq_none.2, Option.map_none]
    intro e he
    by_cases heq : e.1 = q
    · simp [heq, hp]
    · simp [heq]

@[simp] lemma get?_root (f : Files) : f.get? [] = some (.directory newDirectoryMode) := rfl

lemma get?_cut (hq : q ≠ []) : (f.cut l).get? q = if l <+: q then none else f.get? q := by
  unfold cut
  rw [get?_filter (fun x => !l.isPrefixOf x) hq]
  by_cases h : l <+: q
  · rw [if_pos h, List.isPrefixOf_iff_prefix.2 h]
    rfl
  · rw [if_neg h, Bool.eq_false_iff.2 (mt List.isPrefixOf_iff_prefix.1 h)]
    rfl

lemma get?_cutBelow : (f.cutBelow l).get? q = if l <+: q ∧ q ≠ l then none else f.get? q := by
  by_cases hq : q = []
  · subst hq
    have hnone : ¬ (l <+: [] ∧ [] ≠ l) := by
      rintro ⟨hl, hne⟩
      exact hne (List.prefix_nil.1 hl).symm
    rw [if_neg hnone, get?_root, get?_root]
  · unfold cutBelow
    rw [get?_filter (fun x => !(l.isPrefixOf x && x != l)) hq]
    by_cases h : l <+: q
    · rw [List.isPrefixOf_iff_prefix.2 h]
      by_cases hne : q = l <;> simp [h, hne]
    · rw [Bool.eq_false_iff.2 (mt List.isPrefixOf_iff_prefix.1 h)]
      simp [h]

lemma removeEmptyDirectory_of_givesWay (hgives : f.GivesWay path) :
    f.removeEmptyDirectory path l = .ok (f.cut l) := by
  obtain ⟨above, name, hspeak, habove, hlast, hdot, hup⟩ := hgives
  unfold removeEmptyDirectory
  rw [namesOf_eq_ok.2 ⟨hspeak, rfl, rfl⟩]
  simp only [habove, hlast, hdot, hup, if_false]

/-- A directory that cannot be taken away stays, whatever is reported. -/
lemma removeEmptyDirectory_of_not (hgives : ¬ f.GivesWay path) :
    f.removeEmptyDirectory path l = .ok f ∨ ∃ e, f.removeEmptyDirectory path l = .error e := by
  unfold removeEmptyDirectory
  cases hnames : f.namesOf path with
  | error e => exact .inr ⟨e, rfl⟩
  | ok found =>
    obtain ⟨start, names⟩ := found
    obtain ⟨hspeak, rfl, rfl⟩ := namesOf_eq_ok.1 hnames
    dsimp only
    cases habove : f.locateParent (f.start path) (Path.names path) with
    | error e =>
      dsimp only
      split
      · exact .inl rfl
      · exact .inr ⟨e, rfl⟩
    | ok above =>
      cases hlast : (properNames (Path.names path)).getLast? with
      | none => exact .inr ⟨_, rfl⟩
      | some name =>
        dsimp only
        split
        · exact .inr ⟨_, rfl⟩
        · next hdot =>
          split
          · exact .inr ⟨_, rfl⟩
          · next hup => exact absurd ⟨above, name, hspeak, habove, hlast, hdot, hup⟩ hgives

/-- What a removal comes to. -/
inductive Removes (f : Files) (path : String) : Files → Prop where
  /-- The path leads to nothing. -/
  | nothing (hstat : ∀ found, f.stat path ≠ .ok found) : Removes f path f
  /-- The path leads to a file. -/
  | file {l : Location} {content : Bytes} {mode : Nat}
      (hstat : f.stat path = .ok (l, .file content mode)) : Removes f path (f.cut l)
  /-- The path leads to a directory that can be taken away. -/
  | directory {l : Location} {mode : Nat} (hstat : f.stat path = .ok (l, .directory mode))
      (hgives : (f.cutBelow l).GivesWay path) : Removes f path ((f.cutBelow l).cut l)
  /-- The path leads to a directory that stays when all in it has gone. -/
  | contents {l : Location} {mode : Nat} (hstat : f.stat path = .ok (l, .directory mode))
      (hgives : ¬ (f.cutBelow l).GivesWay path) : Removes f path (f.cutBelow l)

lemma removes_remove (f : Files) (path : String) : Removes f path (f.remove path).1 := by
  cases hstat : f.stat path with
  | error e =>
    have hsame : (f.remove path).1 = f := by simp [remove, isDirectory, removeFile, hstat]
    rw [hsame]
    exact .nothing (by simp [hstat])
  | ok found =>
    obtain ⟨l, _ | mode⟩ := found
    · have hcut : (f.remove path).1 = f.cut l := by
        simp [remove, isDirectory, Entry.isDirectory, removeFile, hstat]
      rw [hcut]
      exact .file hstat
    · have hremove : f.remove path = f.removeDirectory path := by
        simp [remove, isDirectory, Entry.isDirectory, hstat]
      rw [hremove]
      simp only [removeDirectory, hstat]
      by_cases hgives : (f.cutBelow l).GivesWay path
      · rw [removeEmptyDirectory_of_givesWay hgives]
        exact .directory hstat hgives
      · rcases removeEmptyDirectory_of_not (l := l) hgives with hok | ⟨e, herror⟩
        · rw [hok]
          exact .contents hstat hgives
        · rw [herror]
          exact .contents hstat hgives

lemma Removes.get?_of_strips (h : Removes f path g) (hstrips : f.Strips path q) :
    g.get? q = none := by
  obtain ⟨hq, l, e, hstat, hl, hself⟩ := hstrips
  cases h with
  | nothing hnone => exact absurd hstat (hnone _)
  | file hfile =>
    obtain ⟨rfl, rfl⟩ := Prod.mk.inj (Except.ok.inj (hstat.symm.trans hfile))
    rw [get?_cut hq, if_pos hl]
  | directory hdir _ =>
    obtain ⟨rfl, rfl⟩ := Prod.mk.inj (Except.ok.inj (hstat.symm.trans hdir))
    rw [get?_cut hq, if_pos hl]
  | contents hdir hstays =>
    obtain ⟨rfl, rfl⟩ := Prod.mk.inj (Except.ok.inj (hstat.symm.trans hdir))
    rw [get?_cutBelow, if_pos ⟨hl, fun heq => hstays (hself heq rfl)⟩]

lemma Removes.get?_of_not_strips (h : Removes f path g) (hstrips : ¬ f.Strips path q) :
    g.get? q = f.get? q := by
  by_cases hq : q = []
  · subst hq
    rfl
  cases h with
  | nothing _ => rfl
  | file hfile =>
    rw [get?_cut hq, if_neg]
    intro hl
    exact hstrips ⟨hq, _, _, hfile, hl, fun _ hdir => by contradiction⟩
  | @directory l mode hdir hgives =>
    have hl : ¬ l <+: q := fun hl => hstrips ⟨hq, l, _, hdir, hl, fun _ _ => hgives⟩
    rw [get?_cut hq, if_neg hl, get?_cutBelow, if_neg fun h => hl h.1]
  | @contents l mode hdir _ =>
    rw [get?_cutBelow, if_neg]
    rintro ⟨hl, hne⟩
    exact hstrips ⟨hq, l, _, hdir, hl, fun heq => absurd heq hne⟩

lemma Removes.current_eq (h : Removes f path g) : g.current = f.current := by
  cases h <;> rfl

/-- **What a removal takes away.**  It is gone, and everything else stays as it was. -/
theorem get?_remove (f : Files) (path : String) (q : Location) :
    (f.Strips path q → (f.remove path).1.get? q = none) ∧
      (¬ f.Strips path q → (f.remove path).1.get? q = f.get? q) :=
  ⟨(removes_remove f path).get?_of_strips, (removes_remove f path).get?_of_not_strips⟩

/-! ### Several removals -/

namespace LeftOf

lemma refl (f : Files) : LeftOf f f where
  current := rfl
  kept _ _ h := h
  below _ _ _ hx hnone := absurd hnone hx

lemma get?_eq_none (hleft : LeftOf f g) (h : f.get? q = none) : g.get? q = none := by
  by_contra hsome
  obtain ⟨e, he⟩ := Option.ne_none_iff_exists'.1 hsome
  rw [hleft.kept q e he] at h
  contradiction

/-- What is left at all is left as it was. -/
lemma get?_eq (hleft : LeftOf f g) (h : g.get? q ≠ none) : g.get? q = f.get? q := by
  obtain ⟨e, he⟩ := Option.ne_none_iff_exists'.1 h
  rw [he, hleft.kept q e he]

lemma trans {h : Files} (hfg : LeftOf f g) (hgh : LeftOf g h) : LeftOf f h where
  current := hgh.current.trans hfg.current
  kept x e he := hfg.kept x e (hgh.kept x e he)
  below x y hxy hx hnone := by
    by_cases hgx : g.get? x = none
    · exact hgh.get?_eq_none (hfg.below x y hxy hx hgx)
    · exact hgh.below x y hxy hgx hnone

lemma remove (f : Files) (path : String) : LeftOf f (f.remove path).1 where
  current := (removes_remove f path).current_eq
  kept x e he := by
    by_cases hx : f.Strips path x
    · rw [(get?_remove f path x).1 hx] at he
      contradiction
    · rwa [(get?_remove f path x).2 hx] at he
  below x y hxy hsome hnone := by
    have hx : f.Strips path x := by
      by_contra hx
      rw [(get?_remove f path x).2 hx] at hnone
      exact hsome hnone
    obtain ⟨hroot, l, e, hstat, hl, hself⟩ := hx
    refine (get?_remove f path y).1 ⟨?_, l, e, hstat, hl.trans hxy, ?_⟩
    · rintro rfl
      exact hroot (List.prefix_nil.1 hxy)
    · rintro rfl
      exact hself (hxy.eq_of_length_le hl.length_le)

/-- What a path leads to in the rest it led to in the whole. -/
lemma stat {e : Entry} (hleft : LeftOf f g) (h : g.stat path = .ok (l, e)) :
    f.stat path = .ok (l, e) := by
  obtain ⟨hlocate, hget⟩ := stat_eq_ok.1 h
  exact stat_eq_ok.2 ⟨locate_mono hleft.current hleft.kept hlocate, hleft.kept _ _ hget⟩

/-- A path that led somewhere still leads there just when its way is left. -/
lemma stat_iff {e : Entry} (hleft : LeftOf f g) (h : f.stat path = .ok (l, e)) :
    g.stat path = .ok (l, e) ↔ ∀ x ∈ f.way path, g.get? x ≠ none := by
  constructor
  · intro hstat x hx
    have hway : g.way path = f.way path := by rw [way, way, start, start, hleft.current]
    exact get?_ne_none_of_stat hstat (hway ▸ hx)
  · intro hway
    rw [stat_congr hleft.current fun x hx => hleft.get?_eq (hway x hx), h]

end LeftOf

/-! ### A removal in what is left -/

lemma liveNames_properNames (names : List String) :
    liveNames (properNames names) = liveNames names := by
  rw [liveNames, properNames, List.filter_filter]
  refine List.filter_congr fun name _ => ?_
  cases name.isEmpty <;> simp

lemma liveNames_parents (names : List String) :
    liveNames (properNames names).dropLast <+: liveNames names := by
  rw [← liveNames_properNames names]
  exact (List.dropLast_prefix _).filter _

lemma locateParent_congr {here : Location} {names : List String}
    (h : ∀ x ∈ trail here (liveNames names), g.get? x = f.get? x) :
    g.locateParent here names = f.locateParent here names := by
  obtain ⟨rest, hrest⟩ := liveNames_parents names
  have hwalk : g.walk here (properNames names).dropLast
      = f.walk here (properNames names).dropLast :=
    walk_congr fun x hx => h x (hrest ▸ mem_trail_append hx)
  unfold locateParent
  rw [hwalk]
  split
  · rfl
  · next l hl =>
    obtain ⟨rfl, -⟩ := walk_eq_ok hl
    rw [h _ (hrest ▸ mem_trail_append (ending_mem_trail ..))]

lemma locateParent_mono {here above : Location} {names : List String}
    (h : ∀ x e, g.get? x = some e → f.get? x = some e)
    (hparent : g.locateParent here names = .ok above) :
    f.locateParent here names = .ok above := by
  unfold locateParent at hparent ⊢
  split at hparent
  · contradiction
  · next hwalk =>
    rw [walk_mono h hwalk]
    split at hparent
    · next hdir =>
      simp only [h _ _ hdir]
      exact hparent
    · contradiction
    · contradiction

lemma LeftOf.givesWay (hleft : LeftOf f g) (hgives : (g.cutBelow l).GivesWay path) :
    (f.cutBelow l).GivesWay path := by
  obtain ⟨above, name, hspeak, habove, hname⟩ := hgives
  have hstart : (g.cutBelow l).start path = (f.cutBelow l).start path := by
    rw [start, start, cutBelow, cutBelow, hleft.current]
  rw [hstart] at habove
  refine ⟨above, name, hspeak, locateParent_mono (fun x e he => ?_) habove, hname⟩
  rw [get?_cutBelow] at he ⊢
  split at he
  · contradiction
  · next hx => rw [if_neg hx, hleft.kept x e he]

/-- What a removal takes away from the rest it takes away from the whole. -/
lemma LeftOf.strips (hleft : LeftOf f g) (hstrips : g.Strips path q) : f.Strips path q := by
  obtain ⟨hq, l, e, hstat, hl, hself⟩ := hstrips
  exact ⟨hq, l, e, hleft.stat hstat, hl, fun heq hdir => hleft.givesWay (hself heq hdir)⟩

/-- What a removal takes away from the whole it takes away from the rest, if the way of the path is
left. -/
lemma LeftOf.strips_of_way (hleft : LeftOf f g) (hway : ∀ x ∈ f.way path, g.get? x ≠ none)
    (hstrips : f.Strips path q) : g.Strips path q := by
  have hsame : ∀ x ∈ f.way path, g.get? x = f.get? x := fun x hx => hleft.get?_eq (hway x hx)
  obtain ⟨hq, l, e, hstat, hl, hself⟩ := hstrips
  refine ⟨hq, l, e, by rw [stat_congr hleft.current hsame, hstat], hl, fun heq hdir => ?_⟩
  obtain ⟨above, name, hspeak, habove, hname⟩ := hself heq hdir
  have hstart : (g.cutBelow l).start path = (f.cutBelow l).start path := by
    rw [start, start, cutBelow, cutBelow, hleft.current]
  refine ⟨above, name, hspeak, ?_, hname⟩
  rw [hstart, locateParent_congr, habove]
  intro x hx
  rw [liveNames_names] at hx
  rw [get?_cutBelow, get?_cutBelow, hsame x hx]

end EdgeNode.Files
