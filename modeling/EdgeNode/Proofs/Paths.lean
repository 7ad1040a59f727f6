import EdgeNode.RuntimePaths
import Mathlib.Data.List.Basic
/-!
# The steps of a path

A path leads on by the names in it that are neither empty nor a dot, from the root or from the
current directory.  `Path.steps` are these names.  A name that is joined to a path is one step more,
and the directory of a configuration file has all of its steps but the last.
-/

namespace EdgeNode

/-! ### Cutting and joining -/

namespace Text

variable {sep : Char} {cs : List Char}

lemma split_cons_self (cs : List Char) : split sep (sep :: cs) = [] :: split sep cs := by
  rw [split, if_pos rfl]

lemma split_of_notMem (h : sep ∉ cs) : split sep cs = [cs] := by
  induction cs with
  | nil => rfl
  | cons c cs ih =>
    obtain ⟨hc, hcs⟩ := not_or.1 (mt List.mem_cons.2 h)
    rw [split, if_neg (Ne.symm hc), ih hcs]

/-- A list that is cut at a separator in it comes apart there. -/
lemma split_append_cons (a b : List Char) :
    split sep (a ++ sep :: b) = split sep a ++ split sep b := by
  induction a with
  | nil => exact split_cons_self b
  | cons c a ih =>
    rw [List.cons_append, split, split]
    split
    · rw [ih, List.cons_append]
    · rw [ih]
      cases hsplit : split sep a with
      | nil => exact absurd hsplit (split_ne_nil sep a)
      | cons piece rest => rfl

lemma notMem_of_mem_split {piece : List Char} (h : piece ∈ split sep cs) : sep ∉ piece := by
  induction cs generalizing piece with
  | nil =>
    rw [split, List.mem_singleton] at h
    simp [h]
  | cons c cs ih =>
    rw [split] at h
    split at h
    · rcases List.mem_cons.1 h with rfl | h
      · simp
      · exact ih h
    · next hc =>
      cases hsplit : split sep cs with
      | nil => exact absurd hsplit (split_ne_nil sep cs)
      | cons first rest =>
        rw [hsplit] at h ih
        rcases List.mem_cons.1 h with rfl | h
        · exact mt List.mem_cons.1 (not_or.2 ⟨Ne.symm hc, ih List.mem_cons_self⟩)
        · exact ih (List.mem_cons_of_mem _ h)

lemma join_cons_cons (piece next : List Char) (rest : List (List Char)) :
    join sep (piece :: next :: rest) = piece ++ sep :: join sep (next :: rest) := by
  rw [join]
  simp

lemma split_join {l : List (List Char)} (hne : l ≠ []) (h : ∀ piece ∈ l, sep ∉ piece) :
    split sep (join sep l) = l := by
  induction l with
  | nil => contradiction
  | cons piece rest ih =>
    cases rest with
    | nil => exact split_of_notMem (h piece (by simp))
    | cons next rest =>
      rw [join_cons_cons, split_append_cons, split_of_notMem (h piece (by simp)),
        ih (by simp) fun p hp => h p (List.mem_cons_of_mem _ hp), List.singleton_append]

lemma join_prefix {l l' : List (List Char)} (h : l <+: l') : join sep l <+: join sep l' := by
  obtain ⟨tail, rfl⟩ := h
  induction l with
  | nil => exact List.nil_prefix
  | cons piece rest ih =>
    cases rest with
    | nil =>
      cases tail with
      | nil => exact List.prefix_rfl
      | cons next tail =>
        rw [List.cons_append, List.nil_append, join_cons_cons]
        exact List.prefix_append _ _
    | cons next rest =>
      rw [List.cons_append] at ih ⊢
      rw [List.cons_append, join_cons_cons, join_cons_cons]
      exact (List.prefix_append_right_inj piece).2 (List.cons_prefix_cons.2 ⟨rfl, ih⟩)

end Text

namespace Path

/-- The components of a list of characters that lead on. -/
def live (cs : List Char) : List (List Char) :=
  (Text.split '/' cs).filter fun c => !isIdle c

/-- The names by which a path leads on. -/
def steps (path : String) : List String :=
  (live path.toList).map String.ofList

/-- All names of a path, behind the slash that stands for the root. -/
def names (path : String) : List String :=
  if isAbsolute path then (Text.pieces '/' path).tail else Text.pieces '/' path

/-- A path that the system looks at. -/
structure Speakable (path : String) : Prop where
  nonempty : path ≠ ""
  zeroless : Char.ofNat 0 ∉ path.toList
  short : path.utf8ByteSize < 4096

lemma head?_pieces {path : String} (h : path ≠ "") :
    (Text.pieces '/' path).head? = some "" ↔ isAbsolute path = true := by
  obtain ⟨c, cs, hcs⟩ := List.exists_cons_of_ne_nil (mt String.toList_eq_nil_iff.1 h)
  rw [Text.pieces, isAbsolute, hcs, Text.split]
  by_cases hc : c = '/'
  · simp [hc]
  · have hsome : ∀ piece : List Char, String.ofList (c :: piece) ≠ "" := by simp
    rw [if_neg hc]
    cases Text.split '/' cs <;> simp [hc]

/-! ### Joined names -/

lemma live_append_slash (a b : List Char) : live (a ++ '/' :: b) = live a ++ live b := by
  rw [live, Text.split_append_cons, List.filter_append, live, live]

@[simp] lemma live_nil : live [] = [] := rfl

lemma live_slash (cs : List Char) : live ('/' :: cs) = live cs :=
  live_append_slash [] cs

/-- A text that can be the name of a file: it has no slash and is neither empty nor a dot or two. -/
structure IsName (name : String) : Prop where
  slashless : '/' ∉ name.toList
  live : isIdle name.toList = false
  notUp : name ≠ ".."

instance (name : String) : Decidable (IsName name) :=
  decidable_of_iff ('/' ∉ name.toList ∧ isIdle name.toList = false ∧ name ≠ "..")
    ⟨fun ⟨h, h', h''⟩ => ⟨h, h', h''⟩, fun ⟨h, h', h''⟩ => ⟨h, h', h''⟩⟩

variable {base name : String}

lemma IsName.live_eq (h : IsName name) : Path.live name.toList = [name.toList] := by
  rw [Path.live, Text.split_of_notMem h.slashless]
  simp [h.live]

lemma IsName.notAbsolute (h : IsName name) : isAbsolute name = false := by
  have hslash := h.slashless
  unfold isAbsolute
  cases hcs : name.toList with
  | nil => rfl
  | cons c cs =>
    have hc : c ≠ '/' := fun heq => hslash (by rw [hcs, heq]; exact List.mem_cons_self)
    simpa using hc

/-- A text that is joined to a path stands behind a slash, unless the path is empty or the text
starts at the root. -/
lemma toList_join (base : String) (h : isAbsolute name = false) : base = "" ∧ join base name = name ∨
    ∃ front, (join base name).toList = front ++ '/' :: name.toList ∧ base ≠ "" ∧
      (base.toList = front ∨ base.toList = front ++ ['/']) := by
  rw [join, h]
  simp only [Bool.false_eq_true, if_false]
  by_cases hempty : base = ""
  · exact .inl ⟨hempty, by simp [hempty]⟩
  · right
    split
    · next hend =>
      have hlast : base.toList.getLast? = some '/' := by
        simpa [hempty] using hend
      obtain ⟨front, hfront⟩ := List.getLast?_eq_some_iff.1 hlast
      exact ⟨front, by simp [hfront], hempty, .inr hfront⟩
    · exact ⟨base.toList, by simp, hempty, .inl rfl⟩

/-- A path leads on by the steps of its parts. -/
lemma steps_join_of_relative (h : isAbsolute name = false) :
    steps (join base name) = steps base ++ steps name := by
  rcases toList_join base h with ⟨rfl, hjoin⟩ | ⟨front, hjoin, -, hbase⟩
  · rw [hjoin]
    rfl
  · have hfront : live base.toList = live front := by
      rcases hbase with hbase | hbase
      · rw [hbase]
      · rw [hbase, live_append_slash, live_nil, List.append_nil]
    rw [steps, steps, steps, hjoin, live_append_slash, hfront, List.map_append]

lemma steps_join (h : IsName name) : steps (join base name) = steps base ++ [name] := by
  rw [steps_join_of_relative h.notAbsolute, steps, steps, h.live_eq]
  simp

lemma isAbsolute_join_of_relative (h : isAbsolute name = false) :
    isAbsolute (join base name) = isAbsolute base := by
  rcases toList_join base h with ⟨rfl, hjoin⟩ | ⟨front, hjoin, hne, hbase⟩
  · rw [hjoin, h]
    rfl
  · unfold isAbsolute
    rw [hjoin]
    rcases hbase with hbase | hbase
    · cases hfront : front with
      | nil => exact absurd (String.toList_eq_nil_iff.1 (hbase.trans hfront)) hne
      | cons c cs => rw [hbase, hfront]; rfl
    · rw [hbase]
      cases front <;> rfl

lemma isAbsolute_join (h : IsName name) : isAbsolute (join base name) = isAbsolute base :=
  isAbsolute_join_of_relative h.notAbsolute

/-- The names of a path to which a name is joined are those of the path, but for the empty one
behind a last slash, and the name. -/
lemma names_join (h : IsName name) (hne : base ≠ "") :
    ∃ above, names (join base name) = above ++ [name] ∧
      (names base = above ∨ names base = above ++ [""]) := by
  have habs : isAbsolute (join base name) = isAbsolute base := isAbsolute_join h
  rcases toList_join base h.notAbsolute with ⟨hempty, -⟩ | ⟨front, hjoin, -, hbase⟩
  · exact absurd hempty hne
  have hpieces : Text.pieces '/' (join base name)
      = (Text.split '/' front).map String.ofList ++ [name] := by
    rw [Text.pieces, hjoin, Text.split_append_cons, Text.split_of_notMem h.slashless]
    simp
  have hfront : Text.pieces '/' base = (Text.split '/' front).map String.ofList ∨
      Text.pieces '/' base = (Text.split '/' front).map String.ofList ++ [""] := by
    rcases hbase with hbase | hbase
    · exact .inl (by rw [Text.pieces, hbase])
    · refine .inr ?_
      rw [Text.pieces, hbase, Text.split_append_cons]
      simp [Text.split]
  have hsome : (Text.split '/' front).map String.ofList ≠ [] := by
    simpa using Text.split_ne_nil '/' front
  unfold names
  rw [habs, hpieces]
  split
  · refine ⟨_, List.tail_append_of_ne_nil hsome, hfront.imp ?_ ?_⟩
    · intro hfront
      rw [hfront]
    · intro hfront
      rw [hfront, List.tail_append_of_ne_nil hsome]
  · exact ⟨_, rfl, hfront⟩

lemma speakable_of_join (h : IsName name) (hne : base ≠ "") (hspeak : Speakable (join base name)) :
    Speakable base := by
  rcases toList_join base h.notAbsolute with ⟨hempty, -⟩ | ⟨front, hjoin, -, hbase⟩
  · exact absurd hempty hne
  have hfront : base.toList <+: (join base name).toList := by
    rw [hjoin]
    rcases hbase with hbase | hbase <;> rw [hbase] <;> simp
  obtain ⟨rest, hrest⟩ := hfront
  have htext : join base name = base ++ String.ofList rest := by
    rw [← String.toList_inj, String.toList_append, String.toList_ofList, hrest]
  have hsize : (join base name).utf8ByteSize
      = base.utf8ByteSize + (String.ofList rest).utf8ByteSize := by
    rw [htext, String.utf8ByteSize_append]
  refine ⟨hne, fun hzero => hspeak.zeroless (hrest ▸ List.mem_append_left _ hzero), ?_⟩
  have hshort := hspeak.short
  omega

/-! ### The directory of a configuration file -/

lemma filter_dropWhile_idle (l : List (List Char)) :
    (l.dropWhile isIdle).filter (fun c => !isIdle c) = l.filter fun c => !isIdle c := by
  induction l with
  | nil => rfl
  | cons c l ih =>
    by_cases hc : isIdle c
    · rw [List.dropWhile_cons_of_pos hc, ih, List.filter_cons_of_neg (by simpa using hc)]
    · rw [List.dropWhile_cons_of_neg hc]

/-- The head of a path says where it starts from, and the body has all that leads on. -/
lemma splitHead_cases (cs : List Char) :
    (∃ body, cs = '/' :: body ∧ splitHead cs = (['/'], body)) ∨
    (cs = ['.'] ∧ splitHead cs = (['.'], [])) ∨
    (∃ rest, cs = '.' :: '/' :: rest ∧ splitHead cs = (['.'], '/' :: rest)) ∨
    (cs.head? ≠ some '/' ∧ splitHead cs = ([], cs)) := by
  unfold splitHead
  split
  · exact .inl ⟨_, rfl, rfl⟩
  · exact .inr (.inl ⟨rfl, rfl⟩)
  · exact .inr (.inr (.inl ⟨_, rfl, rfl⟩))
  · next hslash _ _ =>
    refine .inr (.inr (.inr ⟨fun hc => ?_, rfl⟩))
    obtain ⟨rest, hrest⟩ := List.head?_eq_some_iff.1 hc
    exact hslash rest hrest

lemma live_splitHead (cs : List Char) : live (splitHead cs).2 = live cs := by
  rcases splitHead_cases cs with ⟨body, rfl, hhead⟩ | ⟨rfl, hhead⟩ | ⟨rest, rfl, hhead⟩ | ⟨-, hhead⟩
  · rw [hhead, live_slash]
  · rfl
  · rw [hhead, live_slash]
    exact (live_append_slash ['.'] rest).symm
  · rw [hhead]

/-- The head of a path and some of the first components of its body: what leads on, and where it
starts from. -/
structure Front (cs text : List Char) (above : List (List Char)) : Prop where
  live_eq : live text = above.filter fun c => !isIdle c
  head_iff : text.head? = some '/' ↔ cs.head? = some '/'

lemma live_join {l : List (List Char)} (h : ∀ piece ∈ l, '/' ∉ piece) :
    live (Text.join '/' l) = l.filter fun c => !isIdle c := by
  by_cases hl : l = []
  · subst hl
    rfl
  · rw [live, Text.split_join hl h]

/-- Behind a leading dot the first component of the body is empty. -/
lemma live_dot_join {above : List (List Char)} {rest : List Char}
    (hfront : above <+: [] :: Text.split '/' rest) :
    live ('.' :: Text.join '/' above) = above.filter fun c => !isIdle c := by
  match above with
  | [] => rfl
  | [piece] =>
    obtain ⟨rfl, -⟩ := List.cons_prefix_cons.1 hfront
    rfl
  | piece :: next :: above =>
    obtain ⟨rfl, hrest⟩ := List.cons_prefix_cons.1 hfront
    rw [Text.join_cons_cons]
    refine (live_append_slash ['.'] _).trans (live_join fun piece hp => ?_)
    exact Text.notMem_of_mem_split (hrest.mem hp)

lemma front_splitHead {cs : List Char} {above : List (List Char)}
    (hfront : above <+: Text.split '/' (splitHead cs).2) :
    Front cs ((splitHead cs).1 ++ Text.join '/' above) above := by
  have hpieces : ∀ piece ∈ above, '/' ∉ piece := fun piece hp =>
    Text.notMem_of_mem_split (hfront.mem hp)
  rcases splitHead_cases cs with
    ⟨body, rfl, hhead⟩ | ⟨rfl, hhead⟩ | ⟨rest, rfl, hhead⟩ | ⟨hcs, hhead⟩
  · rw [hhead]
    exact ⟨(live_slash _).trans (live_join hpieces), by simp⟩
  · rw [hhead] at hfront ⊢
    exact ⟨live_dot_join (hfront.trans (List.prefix_append _ (Text.split '/' []))), by simp⟩
  · rw [hhead, Text.split_cons_self] at hfront
    rw [hhead]
    exact ⟨live_dot_join hfront, by simp⟩
  · rw [hhead] at hfront ⊢
    refine ⟨live_join hpieces, iff_of_false (fun hslash => hcs ?_) hcs⟩
    have hfirst : Text.join '/' above <+: Text.join '/' (Text.split '/' cs) :=
      Text.join_prefix hfront
    rw [Text.join_split] at hfirst
    obtain ⟨tail, rfl⟩ := hfirst
    rw [List.nil_append] at hslash
    rw [List.head?_append, hslash]
    rfl

/-- The components of a body up to the last that leads on, which is taken off. -/
lemma live_of_dropWhile {body last : List Char} {before : List (List Char)}
    (h : (Text.split '/' body).reverse.dropWhile isIdle = last :: before) :
    (before.dropWhile isIdle).reverse <+: Text.split '/' body ∧
      live body = ((before.dropWhile isIdle).reverse.filter fun c => !isIdle c) ++ [last] := by
  have hlive : isIdle last = false := by
    have hhead := List.head?_dropWhile_not isIdle (Text.split '/' body).reverse
    rw [h] at hhead
    simpa using hhead
  constructor
  · have hsuffix : before.dropWhile isIdle <:+ (Text.split '/' body).reverse := by
      refine (List.dropWhile_suffix _).trans ((List.suffix_cons last before).trans ?_)
      rw [← h]
      exact List.dropWhile_suffix _
    simpa using List.reverse_prefix.2 hsuffix
  · have hfilter := filter_dropWhile_idle (Text.split '/' body).reverse
    rw [h, List.filter_cons_of_pos (by simpa using hlive), List.filter_reverse] at hfilter
    rw [live, ← List.reverse_inj, ← hfilter, ← filter_dropWhile_idle before]
    simp [List.filter_reverse]

/-- A path that leads on at all does so by the steps of its directory and one more, from the same
start. -/
theorem steps_directoryOf (path : String) : steps path = [] ∨
    ∃ last, steps path = steps (RuntimePaths.directoryOf path) ++ [last] ∧
      isAbsolute (RuntimePaths.directoryOf path) = isAbsolute path := by
  have hlive := live_splitHead path.toList
  cases hback : (Text.split '/' (splitHead path.toList).2).reverse.dropWhile isIdle with
  | nil =>
    left
    have hfilter := filter_dropWhile_idle (Text.split '/' (splitHead path.toList).2).reverse
    rw [hback, List.filter_reverse] at hfilter
    have hnone : live (splitHead path.toList).2 = [] := by
      simpa [live] using hfilter.symm
    rw [steps, ← hlive, hnone]
    rfl
  | cons last before =>
    right
    obtain ⟨hfirst, hlast⟩ := live_of_dropWhile hback
    have hfront := front_splitHead hfirst
    have hparent : parent? path = some (String.ofList
        ((splitHead path.toList).1 ++ Text.join '/' (before.dropWhile isIdle).reverse)) := by
      simp only [parent?, hback]
    set text := (splitHead path.toList).1 ++ Text.join '/' (before.dropWhile isIdle).reverse
    have hdir : Front path.toList (RuntimePaths.directoryOf path).toList
        (before.dropWhile isIdle).reverse := by
      by_cases hempty : text = []
      · have hdot : RuntimePaths.directoryOf path = "." := by
          simp [RuntimePaths.directoryOf, hparent, hempty]
        rw [hempty] at hfront
        rw [hdot]
        exact ⟨hfront.live_eq, by simpa using hfront.head_iff⟩
      · have htext : RuntimePaths.directoryOf path = String.ofList text := by
          simp [RuntimePaths.directoryOf, hparent, hempty]
        rw [htext, String.toList_ofList]
        exact hfront
    refine ⟨String.ofList last, ?_, ?_⟩
    · rw [steps, steps, ← hlive, hlast, hdir.live_eq]
      simp
    · rw [isAbsolute, isAbsolute, Bool.eq_iff_iff, beq_iff_eq, beq_iff_eq]
      exact hdir.head_iff

end Path

end EdgeNode
