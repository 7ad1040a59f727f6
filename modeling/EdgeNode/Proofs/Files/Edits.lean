import EdgeNode.Keys
import EdgeNode.Proofs.Files.Ways
import Mathlib.Logic.Relation
/-!
# Edits

All work on files but a removal is made of three edits: something is put where nothing stands,
permission bits change, and a file is written at a path.  Only the last of them touches what a file
holds, so a file keeps its content unless it is at the end of a path that is written to.
`Edits writes` are edits that write to the given paths at most.
-/

namespace EdgeNode

/-- A path ends in a name. -/
def Path.EndsIn (path name : String) : Prop :=
  name ≠ ".." ∧ ∃ above, steps path = above ++ [name]

lemma Path.endsIn_join (base : String) {name : String} (hname : Path.IsName name) :
    Path.EndsIn (Path.join base name) name :=
  ⟨hname.notUp, steps base, Path.steps_join hname⟩

namespace Files

/-- An edit that writes to one of the given paths at most. -/
inductive Edit (writes : String → Prop) (f : Files) : Files → Prop
  /-- Something new. -/
  | adds {l : Location} {e : Entry} (hfree : f.get? l = none) : Edit writes f (f.put l e)
  /-- Other permission bits. -/
  | marks {l : Location} {e : Entry} {mode : Nat} (he : f.get? l = some e) :
    Edit writes f (f.put l (e.withMode mode))
  /-- A file with another content. -/
  | writes {path : String} {l : Location} {old : Option (Bytes × Nat)} {content : Bytes}
    {mode : Nat} (hpath : writes path) (hopen : f.openForWriting path = .ok (l, old)) :
    Edit writes f (f.put l (.file content mode))

/-- Edits that write to the given paths at most. -/
abbrev Edits (writes : String → Prop) : Files → Files → Prop :=
  Relation.ReflTransGen (Edit writes)

variable {writes : String → Prop} {f g : Files} {here l : Location} {e : Entry}
  {names : List String} {path name : String} {content : Bytes} {mode : Nat}

/-! ### What work on files comes to -/

lemma Edit.mono {more : String → Prop} (hmore : ∀ path, writes path → more path)
    (h : Edit writes f g) : Edit more f g := by
  cases h with
  | adds hfree => exact .adds hfree
  | marks he => exact .marks he
  | writes hpath hopen => exact .writes (hmore _ hpath) hopen

lemma Edits.mono {more : String → Prop} (hmore : ∀ path, writes path → more path)
    (h : Edits writes f g) : Edits more f g :=
  Relation.ReflTransGen.mono (fun _ _ => Edit.mono hmore) _ _ h

lemma edit_createDirectory (h : f.createDirectory path = .ok g) : Edit writes f g := by
  unfold createDirectory at h
  split at h
  · contradiction
  · split at h
    · contradiction
    · split at h
      · contradiction
      · next hfree =>
        split at h
        · obtain rfl := Except.ok.inj h
          exact .adds hfree
        · contradiction
        · contradiction

lemma edits_ensureDirectory (h : f.ensureDirectory path = .ok g) : Edits writes f g := by
  unfold ensureDirectory at h
  split at h
  · next hcreate =>
    obtain rfl := Except.ok.inj h
    exact .single (edit_createDirectory hcreate)
  · split at h
    · obtain rfl := Except.ok.inj h
      exact .refl
    · contradiction

lemma edits_createDirectoriesUpTo (fuel : Nat) (f : Files) (path : String) :
    Edits writes f (createDirectoriesUpTo fuel f path).1 := by
  induction fuel generalizing f path with
  | zero => exact .refl
  | succ fuel ih =>
    rw [createDirectoriesUpTo]
    split
    · exact .refl
    · split
      · next hcreate => exact .single (edit_createDirectory hcreate)
      · split
        · split
          · exact .refl
          · next parent _ =>
            have habove := ih f parent
            split
            · next hfailed => rwa [hfailed] at habove
            · next hdone =>
              rw [hdone] at habove
              split
              · next hensure => exact habove.trans (edits_ensureDirectory hensure)
              · exact habove
        · split <;> exact .refl

lemma edits_createDirectories (f : Files) (path : String) :
    Edits writes f (f.createDirectories path).1 :=
  edits_createDirectoriesUpTo _ f path

lemma edits_createParent (f : Files) (path : String) : Edits writes f (f.createParent path).2 := by
  unfold createParent
  split
  · exact .refl
  · next dir _ =>
    have hdirs : Edits writes f (f.createDirectories dir).1 := edits_createDirectories f dir
    split <;> next hdir => rwa [hdir] at hdirs

lemma edit_write (hpath : writes path) (h : f.write path content = .ok g) : Edit writes f g := by
  unfold write at h
  split at h
  · contradiction
  · next hopen =>
    obtain rfl := Except.ok.inj h
    exact .writes hpath hopen

lemma openForWriting_of_writeKeyFile (h : f.writeKeyFile path content mode = .ok g) :
    ∃ l old, f.openForWriting path = .ok (l, old) ∧ g = f.put l (.file content (mode % 4096)) := by
  unfold writeKeyFile writeWithMode at h
  split at h
  · next hwrite =>
    split at hwrite
    · contradiction
    · next hopen =>
      obtain rfl := Except.ok.inj hwrite
      obtain rfl := Except.ok.inj h
      exact ⟨_, _, hopen, rfl⟩
  · contradiction

lemma edit_writeKeyFile (hpath : writes path) (h : f.writeKeyFile path content mode = .ok g) :
    Edit writes f g := by
  obtain ⟨l, old, hopen, rfl⟩ := openForWriting_of_writeKeyFile h
  exact .writes hpath hopen

/-- A file that was not there is new, whatever its path. -/
lemma edit_writeKeyFile_of_not_has (hnew : f.has path = false)
    (h : f.writeKeyFile path content mode = .ok g) : Edit writes f g := by
  obtain ⟨l, old, hopen, rfl⟩ := openForWriting_of_writeKeyFile h
  refine .adds ?_
  cases hget : f.get? l with
  | none => rfl
  | some e =>
    have hstat : f.stat path = .ok (l, e) := stat_eq_ok.2 ⟨(openForWriting_eq_ok hopen).1, hget⟩
    rw [has, hstat] at hnew
    contradiction

lemma edit_setMode (h : f.setMode path mode = .ok g) : Edit writes f g := by
  unfold setMode at h
  split at h
  · contradiction
  · next hstat =>
    obtain rfl := Except.ok.inj h
    exact .marks (stat_eq_ok.1 hstat).2

lemma edits_ensureUserSeed (f : Files) (e : Entropy) (path : String) :
    Edits writes f (f.ensureUserSeed e path).2.1 := by
  unfold ensureUserSeed
  split
  · exact .refl
  · next hnew =>
    dsimp only
    split
    · next hwrite => exact .single (edit_writeKeyFile_of_not_has (by simpa using hnew) hwrite)
    · exact .refl

lemma edits_ensureSigningSeed (f : Files) (e : Entropy) (path : String) :
    Edits writes f (f.ensureSigningSeed e path).2.1 := by
  unfold ensureSigningSeed
  split
  · exact .refl
  · next hnew =>
    dsimp only
    split
    · next hwrite => exact .single (edit_writeKeyFile_of_not_has (by simpa using hnew) hwrite)
    · exact .refl

section Chain

variable {dir : String}
  (hwrites : ∀ name ∈ ["ca.pem", "cert.pem", "key.pem"], writes (Path.join dir name))

include hwrites

lemma edits_writeChain (f : Files) (c : CertificateChain) :
    Edits writes f (f.writeChain dir c).2 := by
  unfold writeChain
  dsimp only
  split
  · exact .refl
  · next g hca =>
    have hca' : Edit writes f g := edit_writeKeyFile (hwrites "ca.pem" (by simp)) hca
    split
    · exact .single hca'
    · next g' hcert =>
      have hcert' : Edit writes g g' := edit_writeKeyFile (hwrites "cert.pem" (by simp)) hcert
      split
      · exact .head hca' (.single hcert')
      · next hkey =>
        have hkey' := edit_writeKeyFile (hwrites "key.pem" (by simp)) hkey
        exact .head hca' (.head hcert' (.single hkey'))

lemma edits_ensureChain (f : Files) (e : Entropy) (now : Nat) (identity : String) :
    Edits writes f (f.ensureChain e now identity dir).2.1 := by
  have hdirs : Edits writes f (f.createDirectories dir).1 := edits_createDirectories f dir
  unfold ensureChain
  split
  · next hrefused => rwa [hrefused] at hdirs
  · next g hdone =>
    rw [hdone] at hdirs
    split
    · exact hdirs
    · next chain _ _ =>
      have hchain : Edits writes g (g.writeChain dir chain).2 := edits_writeChain hwrites g chain
      split <;> next hwrite =>
        rw [hwrite] at hchain
        exact hdirs.trans hchain

lemma edits_prepareBroker (f : Files) (e : Entropy) (now : Nat) (identity storage : String) :
    Edits writes f (BrokerConfig.prepare f e now identity dir storage).2.1 := by
  have hchain : Edits writes f (f.ensureChain e now identity dir).2.1 :=
    edits_ensureChain hwrites f e now identity
  unfold BrokerConfig.prepare
  split <;> next heq => rwa [heq] at hchain

end Chain

/-! ### What edits leave alone -/

/-- A directory stays a directory. -/
lemma Edit.directory (h : Edit writes f g) (hdir : f.get? l = some (.directory mode)) :
    ∃ mode', g.get? l = some (.directory mode') := by
  by_cases hroot : l = []
  · subst hroot
    exact ⟨newDirectoryMode, rfl⟩
  cases h with
  | @adds at' e hfree =>
    have hne : l ≠ at' := by
      rintro rfl
      rw [hfree] at hdir
      contradiction
    exact ⟨mode, by rw [get?_put_of_ne hne, hdir]⟩
  | @marks at' e mode' he =>
    by_cases hl : l = at'
    · subst hl
      obtain rfl := Option.some.inj (he.symm.trans hdir)
      exact ⟨mode', get?_put_self hroot⟩
    · exact ⟨mode, by rw [get?_put_of_ne hl, hdir]⟩
  | @writes other at' old content mode' hpath hopen =>
    have hne : l ≠ at' := by
      rintro rfl
      exact (openForWriting_eq_ok hopen).2 mode hdir
    exact ⟨mode, by rw [get?_put_of_ne hne, hdir]⟩

lemma Edit.current_eq (h : Edit writes f g) : g.current = f.current := by
  cases h <;> rfl

lemma Edit.locate (h : Edit writes f g) (hlocate : f.locate path = .ok l) :
    g.locate path = .ok l := by
  have hnames : g.namesOf path = f.namesOf path := by rw [namesOf, namesOf, h.current_eq]
  unfold Files.locate at hlocate ⊢
  rw [hnames]
  split at hlocate
  · contradiction
  · exact walk_of_directories (fun _ _ => h.directory) hlocate

lemma read_eq_ok : f.read path = .ok content ↔
    ∃ l mode, f.locate path = .ok l ∧ f.get? l = some (.file content mode) := by
  unfold read
  split
  · next hstat =>
    refine iff_of_false (by simp) ?_
    rintro ⟨l, mode, hlocate, hget⟩
    rw [stat_eq_ok.2 ⟨hlocate, hget⟩] at hstat
    contradiction
  · next hstat =>
    refine iff_of_false (by simp) ?_
    rintro ⟨l, mode, hlocate, hget⟩
    have hfile := hstat.symm.trans (stat_eq_ok.2 ⟨hlocate, hget⟩)
    simp at hfile
  · next l content' mode hstat =>
    obtain ⟨hlocate, hget⟩ := stat_eq_ok.1 hstat
    constructor
    · intro h
      obtain rfl := Except.ok.inj h
      exact ⟨l, mode, hlocate, hget⟩
    · rintro ⟨l', mode', hlocate', hget'⟩
      obtain rfl := Except.ok.inj (hlocate.symm.trans hlocate')
      obtain ⟨rfl, -⟩ := Entry.file.inj (Option.some.inj (hget.symm.trans hget'))
      rfl

/-- A path that ends in a name leads to that name. -/
lemma locate_endsIn (hends : Path.EndsIn path name) (h : f.locate path = .ok l) :
    l.getLast? = some name := by
  obtain ⟨hname, above, hsteps⟩ := hends
  rw [(locate_eq_ok h).1, hsteps, ending_concat, step, if_neg hname, List.getLast?_concat]

/-- **A file keeps its content** unless its own name is written to. -/
lemma Edit.read (h : Edit writes f g) (hends : Path.EndsIn path name)
    (hother : ∀ other, writes other → ∃ name', Path.EndsIn other name' ∧ name' ≠ name)
    (hread : f.read path = .ok content) : g.read path = .ok content := by
  obtain ⟨l, mode, hlocate, hget⟩ := read_eq_ok.1 hread
  have hlast := locate_endsIn hends hlocate
  have hroot : l ≠ [] := by
    rintro rfl
    contradiction
  refine read_eq_ok.2 ?_
  have hlocate' := h.locate hlocate
  cases h with
  | @adds at' e hfree =>
    have hne : l ≠ at' := by
      rintro rfl
      rw [hfree] at hget
      contradiction
    exact ⟨l, mode, hlocate', by rw [get?_put_of_ne hne, hget]⟩
  | @marks at' e mode' he =>
    by_cases hl : l = at'
    · subst hl
      obtain rfl := Option.some.inj (he.symm.trans hget)
      exact ⟨l, mode', hlocate', get?_put_self hroot⟩
    · exact ⟨l, mode, hlocate', by rw [get?_put_of_ne hl, hget]⟩
  | @writes other at' old content' mode' hpath hopen =>
    obtain ⟨name', hends', hnames⟩ := hother other hpath
    have hne : l ≠ at' := by
      rintro rfl
      have hlast' := locate_endsIn hends' (openForWriting_eq_ok hopen).1
      exact hnames (Option.some.inj (hlast'.symm.trans hlast))
    exact ⟨l, mode, hlocate', by rw [get?_put_of_ne hne, hget]⟩

theorem Edits.read (h : Edits writes f g) (hends : Path.EndsIn path name)
    (hother : ∀ other, writes other → ∃ name', Path.EndsIn other name' ∧ name' ≠ name)
    (hread : f.read path = .ok content) : g.read path = .ok content := by
  induction h with
  | refl => exact hread
  | tail _ hedit ih => exact hedit.read hends hother ih

end Files

end EdgeNode
