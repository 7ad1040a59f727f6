import EdgeNode.Proofs.Files
import EdgeNode.Proofs.Paths
/-!
# The way to a file

The way of a path are the locations that its steps lead through, both ends included, whether or not
anything stands there.  What a path leads to depends on what stands on its way and on nothing else
(`stat_congr`), and a path that leads to something has something everywhere on its way.
-/

namespace EdgeNode.Files

variable {f g : Files} {here l x : Location} {e : Entry} {names : List String} {path : String}

/-- Where a step leads from a location. -/
def step (here : Location) (name : String) : Location :=
  if name = ".." then here.dropLast else here ++ [name]

/-- The locations that steps lead through. -/
def trail (here : Location) : List String → List Location
  | [] => [here]
  | name :: rest => here :: trail (step here name) rest

/-- Where steps lead to. -/
def ending (here : Location) (names : List String) : Location :=
  names.foldl step here

/-- Where a path starts from. -/
def start (f : Files) (path : String) : Location :=
  if Path.isAbsolute path then [] else f.current

/-- The locations that a path leads through. -/
def way (f : Files) (path : String) : List Location :=
  trail (f.start path) (Path.steps path)

/-- The names that lead on. -/
def liveNames (names : List String) : List String :=
  names.filter fun name => !(name.isEmpty || name == ".")

/-! ### Trails -/

lemma mem_trail_self (here : Location) (names : List String) : here ∈ trail here names := by
  cases names <;> exact List.mem_cons_self

lemma ending_mem_trail (here : Location) (names : List String) :
    ending here names ∈ trail here names := by
  induction names generalizing here with
  | nil => exact List.mem_cons_self
  | cons name names ih => exact List.mem_cons_of_mem _ (ih _)

lemma ending_concat (here : Location) (names : List String) (name : String) :
    ending here (names ++ [name]) = step (ending here names) name := by
  simp [ending]

lemma mem_trail_append {more : List String} (h : x ∈ trail here names) :
    x ∈ trail here (names ++ more) := by
  induction names generalizing here with
  | nil =>
    obtain rfl := List.mem_singleton.1 h
    exact mem_trail_self ..
  | cons name names ih =>
    rcases List.mem_cons.1 h with rfl | h
    · exact mem_trail_self ..
    · exact List.mem_cons_of_mem _ (ih h)

lemma mem_trail_concat {name : String} (h : x ∈ trail here (names ++ [name])) :
    x ∈ trail here names ∨ x = ending here (names ++ [name]) := by
  induction names generalizing here with
  | nil =>
    rcases List.mem_cons.1 h with rfl | h
    · exact .inl (mem_trail_self ..)
    · exact .inr (List.mem_singleton.1 h)
  | cons first names ih =>
    rcases List.mem_cons.1 h with rfl | h
    · exact .inl (mem_trail_self ..)
    · exact (ih h).imp_left (List.mem_cons_of_mem _)

/-! ### Following names -/

lemma liveNames_cons (name : String) (names : List String) :
    liveNames (name :: names)
      = if name.isEmpty || name == "." then liveNames names else name :: liveNames names := by
  unfold liveNames
  cases h : name.isEmpty || name == "." <;> simp only [List.filter_cons, h] <;> rfl

/-- A name is followed from a directory only. -/
lemma walk_cons_eq_ok {name : String} : f.walk here (name :: names) = .ok l ↔
    (∃ mode, f.get? here = some (.directory mode)) ∧
      if name.isEmpty || name == "." then f.walk here names = .ok l
      else (name = ".." ∨ tooLong name = false) ∧ f.walk (step here name) names = .ok l := by
  rw [walk]
  split
  · next hhere => simp [hhere]
  · next hhere => simp [hhere]
  · next mode hhere =>
    rw [hhere]
    by_cases hidle : (name.isEmpty || name == ".") = true
    · simp [hidle]
    · rw [if_neg hidle, if_neg hidle, step]
      by_cases hup : name = ".."
      · simp [hup]
      · cases hlong : tooLong name <;> simp [hup]

/-- Names that are followed lead through directories to where they end. -/
lemma walk_eq_ok (h : f.walk here names = .ok l) :
    l = ending here (liveNames names) ∧
      ∀ x ∈ trail here (liveNames names), x = l ∨ ∃ mode, f.get? x = some (.directory mode) := by
  induction names generalizing here with
  | nil =>
    obtain rfl := Except.ok.inj h
    exact ⟨rfl, fun x hx => .inl (List.mem_singleton.1 hx)⟩
  | cons name names ih =>
    obtain ⟨hhere, hrest⟩ := walk_cons_eq_ok.1 h
    rw [liveNames_cons]
    split at hrest
    · next hidle =>
      rw [if_pos hidle]
      exact ih hrest
    · next hidle =>
      rw [if_neg hidle]
      obtain ⟨hend, hway⟩ := ih hrest.2
      refine ⟨hend, fun x hx => ?_⟩
      rcases List.mem_cons.1 hx with rfl | hx
      · exact .inr hhere
      · exact hway x hx

/-- Names lead through directories, so they lead on where directories stay. -/
lemma walk_of_directories
    (h : ∀ x mode, f.get? x = some (.directory mode) →
      ∃ mode', g.get? x = some (.directory mode'))
    (hwalk : f.walk here names = .ok l) : g.walk here names = .ok l := by
  induction names generalizing here with
  | nil => exact hwalk
  | cons name names ih =>
    obtain ⟨⟨mode, hhere⟩, hrest⟩ := walk_cons_eq_ok.1 hwalk
    refine walk_cons_eq_ok.2 ⟨h _ _ hhere, ?_⟩
    split at hrest
    · next hidle =>
      rw [if_pos hidle]
      exact ih hrest
    · next hidle =>
      rw [if_neg hidle]
      exact ⟨hrest.1, ih hrest.2⟩

/-- What is found in a tree is found in every tree that has more. -/
lemma walk_mono (h : ∀ x e, g.get? x = some e → f.get? x = some e)
    (hwalk : g.walk here names = .ok l) : f.walk here names = .ok l :=
  walk_of_directories (fun x mode hx => ⟨mode, h x _ hx⟩) hwalk

/-- How names are followed depends on what stands where they lead through. -/
lemma walk_congr (h : ∀ x ∈ trail here (liveNames names), g.get? x = f.get? x) :
    g.walk here names = f.walk here names := by
  induction names generalizing here with
  | nil => rfl
  | cons name names ih =>
    rw [liveNames_cons] at h
    rw [walk, walk, h here (by split <;> exact mem_trail_self ..)]
    split
    · rfl
    · rfl
    · split
      · next hidle =>
        rw [if_pos hidle] at h
        exact ih h
      · next hidle =>
        rw [if_neg hidle] at h
        have hrest : ∀ x ∈ trail (step here name) (liveNames names), g.get? x = f.get? x :=
          fun x hx => h x (List.mem_cons_of_mem _ hx)
        rw [step] at hrest
        split
        · next hup =>
          rw [if_pos (beq_iff_eq.1 hup)] at hrest
          exact ih hrest
        · next hup =>
          rw [if_neg (mt beq_iff_eq.2 hup)] at hrest
          rw [ih hrest]

lemma walk_append {more : List String} :
    f.walk here (names ++ more) = .ok l ↔
      ∃ there, f.walk here names = .ok there ∧ f.walk there more = .ok l := by
  induction names generalizing here with
  | nil => simp [walk]
  | cons name names ih =>
    rw [List.cons_append, walk_cons_eq_ok]
    simp only [walk_cons_eq_ok, ih]
    split <;> aesop

/-! ### Following paths -/

lemma liveNames_map (pieces : List (List Char)) :
    liveNames (pieces.map String.ofList)
      = (pieces.filter fun c => !Path.isIdle c).map String.ofList := by
  rw [liveNames, List.filter_map]
  congr 2
  funext c
  have hempty : (String.ofList c).isEmpty = c.isEmpty := by
    rw [Bool.eq_iff_iff, String.isEmpty_iff, List.isEmpty_iff, ← String.toList_inj,
      String.toList_ofList]
    rfl
  have hdot : (String.ofList c == ".") = (c == ['.']) := by
    rw [Bool.eq_iff_iff, beq_iff_eq, beq_iff_eq, ← String.toList_inj, String.toList_ofList]
    rfl
  simp only [Function.comp_apply, hempty, hdot, Path.isIdle]

lemma namesOf_eq_ok : f.namesOf path = .ok (here, names) ↔
    Path.Speakable path ∧ here = f.start path ∧ names = Path.names path := by
  unfold namesOf
  by_cases hempty : path = ""
  · exact iff_of_false (by simp [hempty]) fun h => h.1.nonempty hempty
  rw [if_neg (by simpa using hempty)]
  by_cases hzero : Char.ofNat 0 ∈ path.toList
  · exact iff_of_false (by simp [hzero]) fun h => h.1.zeroless hzero
  rw [if_neg (by simpa using hzero)]
  by_cases hlong : path.utf8ByteSize ≥ 4096
  · exact iff_of_false (by simp [hlong]) fun h => absurd h.1.short (Nat.not_lt.2 hlong)
  rw [if_neg hlong]
  have hspeak : Path.Speakable path := ⟨hempty, hzero, Nat.not_le.1 hlong⟩
  have hhead := Path.head?_pieces hempty
  unfold start Path.names
  split
  · next names' hpieces =>
    rw [hpieces] at hhead
    simp [hspeak, hhead.1 rfl, hpieces, eq_comm]
  · next hpieces =>
    have hrel : Path.isAbsolute path = false := by
      by_contra habs
      obtain ⟨names', hnames⟩ := List.head?_eq_some_iff.1 (hhead.2 (by simpa using habs))
      exact hpieces names' hnames
    simp [hspeak, hrel, eq_comm]

/-- The names of a path are its steps, and between them others that lead nowhere. -/
lemma liveNames_names (path : String) : liveNames (Path.names path) = Path.steps path := by
  have hlive : liveNames (Text.pieces '/' path) = Path.steps path := liveNames_map _
  unfold Path.names
  split
  · next habs =>
    have hne : path ≠ "" := by
      rintro rfl
      contradiction
    obtain ⟨names, hnames⟩ := List.head?_eq_some_iff.1 ((Path.head?_pieces hne).2 habs)
    rw [hnames, liveNames_cons] at hlive
    rw [hnames]
    exact hlive
  · exact hlive

/-- A path leads to where its steps end, and to there through directories. -/
lemma locate_eq_ok (h : f.locate path = .ok l) :
    l = ending (f.start path) (Path.steps path) ∧
      ∀ x ∈ f.way path, x = l ∨ ∃ mode, f.get? x = some (.directory mode) := by
  unfold locate at h
  split at h
  · contradiction
  · next hnames =>
    obtain ⟨-, rfl, rfl⟩ := namesOf_eq_ok.1 hnames
    rw [way, ← liveNames_names]
    exact walk_eq_ok h

lemma stat_eq_ok : f.stat path = .ok (l, e) ↔ f.locate path = .ok l ∧ f.get? l = some e := by
  unfold stat
  split
  · next h => simp [h]
  · next l' h =>
    rw [h]
    cases hget : f.get? l' with
    | none =>
      refine iff_of_false (by simp) ?_
      rintro ⟨hl, hget'⟩
      obtain rfl := Except.ok.inj hl
      simp [hget] at hget'
    | some e' =>
      simp only [Except.ok.injEq, Prod.mk.injEq]
      constructor
      · rintro ⟨rfl, rfl⟩
        exact ⟨rfl, hget⟩
      · rintro ⟨rfl, hget'⟩
        exact ⟨rfl, Option.some.inj (hget.symm.trans hget')⟩

lemma start_join {base name : String} (hname : Path.IsName name) :
    f.start (Path.join base name) = f.start base := by
  rw [start, start, Path.isAbsolute_join hname]

lemma way_join {base name : String} (hname : Path.IsName name) :
    f.way (Path.join base name) = trail (f.start base) (Path.steps base ++ [name]) := by
  rw [way, start_join hname, Path.steps_join hname]

/-- A path to which a name is joined leads to that name in what the path leads to. -/
lemma ending_join {base name : String} (hname : Path.IsName name) :
    ending (f.start base) (Path.steps base ++ [name])
      = ending (f.start base) (Path.steps base) ++ [name] := by
  rw [ending_concat, step, if_neg hname.notUp]

/-- A path to which a name is joined leads there through the directory that the path leads to. -/
lemma stat_of_locate_join {base name : String} (hname : Path.IsName name) (hne : base ≠ "")
    (h : f.locate (Path.join base name) = .ok l) :
    ∃ d mode, f.stat base = .ok (d, .directory mode) ∧ l = d ++ [name] := by
  obtain ⟨hl, -⟩ := locate_eq_ok h
  rw [start_join hname, Path.steps_join hname, ending_join hname] at hl
  unfold locate at h
  split at h
  · contradiction
  · next hnames =>
    obtain ⟨hspeak, rfl, rfl⟩ := namesOf_eq_ok.1 hnames
    obtain ⟨above, hjoin, hbase⟩ := Path.names_join hname hne
    rw [hjoin, start_join hname] at h
    obtain ⟨d, hd, hlast⟩ := walk_append.1 h
    obtain ⟨⟨mode, hmode⟩, -⟩ := walk_cons_eq_ok.1 hlast
    have hlocate : f.locate base = .ok d := by
      unfold locate
      rw [namesOf_eq_ok.2 ⟨Path.speakable_of_join hname hne hspeak, rfl, rfl⟩]
      dsimp only
      rcases hbase with hbase | hbase
      · rw [hbase, hd]
      · rw [hbase]
        exact walk_append.2 ⟨d, hd, walk_cons_eq_ok.2 ⟨⟨mode, hmode⟩, rfl⟩⟩
    exact ⟨d, mode, stat_eq_ok.2 ⟨hlocate, hmode⟩, by rw [hl, (locate_eq_ok hlocate).1]⟩

/-- Something stands everywhere on the way of a path that leads to something. -/
lemma get?_ne_none_of_stat (h : f.stat path = .ok (l, e)) (hx : x ∈ f.way path) :
    f.get? x ≠ none := by
  obtain ⟨hlocate, hget⟩ := stat_eq_ok.1 h
  rcases (locate_eq_ok hlocate).2 x hx with rfl | ⟨mode, hmode⟩
  · rw [hget]
    exact Option.some_ne_none _
  · rw [hmode]
    exact Option.some_ne_none _

lemma locate_mono (hcurrent : g.current = f.current)
    (h : ∀ x e, g.get? x = some e → f.get? x = some e) (hlocate : g.locate path = .ok l) :
    f.locate path = .ok l := by
  have hnames : f.namesOf path = g.namesOf path := by rw [namesOf, namesOf, hcurrent]
  unfold locate at hlocate ⊢
  rw [hnames]
  split at hlocate
  · contradiction
  · exact walk_mono h hlocate

/-- What a path leads to depends on what stands on its way. -/
lemma stat_congr (hcurrent : g.current = f.current)
    (h : ∀ x ∈ f.way path, g.get? x = f.get? x) : g.stat path = f.stat path := by
  have hnames : g.namesOf path = f.namesOf path := by rw [namesOf, namesOf, hcurrent]
  have hlocate : g.locate path = f.locate path := by
    unfold locate
    rw [hnames]
    split
    · rfl
    · next hok =>
      obtain ⟨-, rfl, rfl⟩ := namesOf_eq_ok.1 hok
      rw [way, ← liveNames_names] at h
      exact walk_congr h
  unfold stat
  rw [hlocate]
  split
  · rfl
  · next l hl =>
    rw [h l]
    rw [(locate_eq_ok hl).1]
    exact ending_mem_trail ..

end EdgeNode.Files
