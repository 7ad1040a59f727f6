import EdgeNode.Config
import EdgeNode.Proofs.Tables
import EdgeNode.Proofs.Texts
import Mathlib.Data.List.Sort
/-!
# The grammar of configurations

A line of a configuration says nothing (`Config.IsIdle`), gives a value to a key (`Config.Gives`),
or is at fault (`Config.Offends`).  A text is a configuration just when no line of it is at fault,
and it then sets every key to what the last line with that key gives (`parse_eq_ok_iff`); otherwise
the first line at fault is named (`parse_eq_error_iff`).

What a line gives can be written down again: the key starts no comment and has no separator in it,
and neither key nor value has a line feed or blank ends (`Config.IsSetting`).  So the options that
were read, written line by line, are read again as they are.
-/

namespace EdgeNode

open Text (IsBlank IsTrimmed)

namespace Config

variable {path content key value : String} {n : ℕ} {t : Keyed String} {e : Error}
  {line before after : List Char} {lines front back : List (List Char)}

/-! ### Lines -/

/-- The lines of a text, cut at each line feed and trimmed. -/
def linesOf (content : String) : List (List Char) :=
  (Text.split '\n' content.toList).map Text.trim

/-- A line that says nothing is empty or a comment. -/
def IsIdle (line : List Char) : Prop :=
  line = [] ∨ line.head? = some '#' ∨ line.head? = some ';'

/-- A line gives a value to a key: what is around its first `=`, each side trimmed, where the left
one is not blank. -/
inductive Gives : List Char → String → String → Prop
  | intro {before after : List Char} (hidle : ¬ IsIdle (before ++ '=' :: after))
      (hfirst : '=' ∉ before) (hkey : ∃ c ∈ before, Text.isBlank c = false) :
      Gives (before ++ '=' :: after) (String.ofList (Text.trim before))
        (String.ofList (Text.trim after))

/-- A line that a configuration may have. -/
def Fits (line : List Char) : Prop :=
  IsIdle line ∨ ∃ key value, Gives line key value

/-- A line with a number is at fault, which is what an error says. -/
inductive Offends (path : String) (number : ℕ) : List Char → Error → Prop
  /-- There is no separator. -/
  | noSeparator {line : List Char} (hidle : ¬ IsIdle line) (hnone : '=' ∉ line) :
      Offends path number line (.config (path ++ ":" ++ toString number
        ++ ": expected 'key = value', got '" ++ String.ofList line ++ "'"))
  /-- There is no key. -/
  | emptyKey {before after : List Char} (hidle : ¬ IsIdle (before ++ '=' :: after))
      (hkey : IsBlank before) :
      Offends path number (before ++ '=' :: after)
        (.config (path ++ ":" ++ toString number ++ ": empty key"))

/-- The last line that gives something to a key gives a value. -/
def LastGives (lines : List (List Char)) (key value : String) : Prop :=
  ∃ front line back, lines = front ++ line :: back ∧ Gives line key value ∧
    ∀ later ∈ back, ∀ value', ¬ Gives later key value'

lemma read_of_isIdle (h : IsIdle line) : Line.read line = .idle := by
  rcases h with rfl | h | h
  · rfl
  all_goals
    obtain ⟨rest, rfl⟩ := List.head?_eq_some_iff.1 h
    rfl

lemma read_of_not_isIdle (h : ¬ IsIdle line) : Line.read line =
    if line.contains '=' then
      let key := Text.trim (line.takeWhile (· != '='))
      let value := Text.trim ((line.dropWhile (· != '=')).drop 1)
      if key.isEmpty then .emptyKey else .setting (String.ofList key) (String.ofList value)
    else .noSeparator := by
  unfold Line.read
  split
  · exact absurd (.inl rfl) h
  · exact absurd (.inr (.inl rfl)) h
  · exact absurd (.inr (.inr rfl)) h
  · rfl

lemma read_of_notMem (hidle : ¬ IsIdle line) (hnone : '=' ∉ line) :
    Line.read line = .noSeparator := by
  rw [read_of_not_isIdle hidle, if_neg (by simpa using hnone)]

lemma read_append_cons (hidle : ¬ IsIdle (before ++ '=' :: after)) (hfirst : '=' ∉ before) :
    Line.read (before ++ '=' :: after) =
      if (Text.trim before).isEmpty then .emptyKey
      else .setting (String.ofList (Text.trim before)) (String.ofList (Text.trim after)) := by
  have hbefore : ∀ c ∈ before, (c != '=') = true := fun c hc => by
    rw [bne_iff_ne]
    rintro rfl
    exact hfirst hc
  rw [read_of_not_isIdle hidle, if_pos (by simp), List.takeWhile_append_of_pos hbefore,
    List.dropWhile_append_of_pos hbefore, List.takeWhile_cons_of_neg (by simp),
    List.dropWhile_cons_of_neg (by simp), List.append_nil]
  rfl

lemma notMem_of_isBlank (h : IsBlank before) : '=' ∉ before := fun hmem =>
  absurd (h '=' hmem) (by decide)

lemma Gives.read_eq (h : Gives line key value) : Line.read line = .setting key value := by
  cases h with
  | intro hidle hfirst hkey =>
    obtain ⟨c, hc, hsolid⟩ := hkey
    rw [read_append_cons hidle hfirst, if_neg]
    rw [List.isEmpty_iff, Text.trim_eq_nil_iff]
    intro hblank
    simp [hblank c hc] at hsolid

lemma Gives.eq {key' value' : String} (h : Gives line key value) (h' : Gives line key' value') :
    key = key' ∧ value = value' := by
  simpa [h.read_eq] using h'.read_eq

lemma Gives.not_isIdle (h : Gives line key value) : ¬ IsIdle line := by
  cases h with
  | intro hidle _ _ => exact hidle

/-- A line fits or is at fault. -/
lemma fits_or_offends (path : String) (n : ℕ) (line : List Char) :
    Fits line ∨ ∃ e, Offends path n line e := by
  by_cases hidle : IsIdle line
  · exact .inl (.inl hidle)
  by_cases hmem : '=' ∈ line
  · obtain ⟨before, after, rfl, hfirst⟩ := List.eq_append_cons_of_mem hmem
    by_cases hblank : IsBlank before
    · exact .inr ⟨_, .emptyKey hidle hblank⟩
    · simp only [IsBlank, not_forall, Bool.not_eq_true] at hblank
      obtain ⟨c, hc, hsolid⟩ := hblank
      exact .inl (.inr ⟨_, _, .intro hidle hfirst ⟨c, hc, hsolid⟩⟩)
  · exact .inr ⟨_, .noSeparator hidle hmem⟩

/-! ### From line to line -/

/-- The table with what a line gives. -/
def heed (t : Keyed String) (line : List Char) : Keyed String :=
  match Line.read line with
  | .setting key value => t.insert key value
  | _ => t

lemma readLines_cons (h : Fits line) :
    readLines path n t (line :: lines) = readLines path (n + 1) (heed t line) lines := by
  rcases h with hidle | ⟨key, value, hgives⟩
  · simp only [readLines, heed, read_of_isIdle hidle]
  · simp only [readLines, heed, hgives.read_eq]

lemma readLines_append (h : ∀ line ∈ front, Fits line) :
    readLines path n t (front ++ lines)
      = readLines path (n + front.length) (front.foldl heed t) lines := by
  induction front generalizing n t with
  | nil => rfl
  | cons line front ih =>
    obtain ⟨hline, hfront⟩ := List.forall_mem_cons.1 h
    rw [List.cons_append, readLines_cons hline, ih hfront, List.length_cons, List.foldl_cons,
      Nat.add_right_comm, Nat.add_assoc]

lemma readLines_of_fits (h : ∀ line ∈ lines, Fits line) :
    readLines path n t lines = .ok (lines.foldl heed t) := by
  rw [← List.append_nil lines, readLines_append h, List.append_nil, readLines]

lemma Offends.readLines_cons (h : Offends path n line e) :
    readLines path n t (line :: lines) = .error e := by
  cases h with
  | noSeparator hidle hnone => simp only [readLines, read_of_notMem hidle hnone]
  | emptyKey hidle hkey =>
    have hread := read_append_cons hidle (notMem_of_isBlank hkey)
    rw [Text.trim_eq_nil_iff.2 hkey] at hread
    simp only [readLines, hread, List.isEmpty_nil, if_true]

lemma Offends.readLines_append (hfront : ∀ line ∈ front, Fits line)
    (h : Offends path (n + front.length) line e) :
    readLines path n t (front ++ line :: back) = .error e := by
  rw [Config.readLines_append hfront, h.readLines_cons]

/-- If not all lines fit, there is a first one at fault. -/
lemma fits_or_exists_offends (path : String) (n : ℕ) (lines : List (List Char)) :
    (∀ line ∈ lines, Fits line) ∨ ∃ front line back e, lines = front ++ line :: back ∧
      (∀ l ∈ front, Fits l) ∧ Offends path (n + front.length) line e := by
  induction lines generalizing n with
  | nil => exact .inl fun _ h => by contradiction
  | cons line lines ih =>
    rcases fits_or_offends path n line with hfits | ⟨e, hoffends⟩
    · rcases ih (n + 1) with hall | ⟨front, line', back, e, rfl, hfront, hoffends⟩
      · exact .inl (List.forall_mem_cons.2 ⟨hfits, hall⟩)
      · refine .inr ⟨line :: front, line', back, e, rfl, List.forall_mem_cons.2 ⟨hfits, hfront⟩, ?_⟩
        rwa [List.length_cons, Nat.add_comm front.length, ← Nat.add_assoc]
    · exact .inr ⟨[], line, lines, e, rfl, fun _ h => by contradiction, hoffends⟩

/-! ### What is set in the end -/

lemma lastGives_cons : LastGives (line :: lines) key value ↔
    LastGives lines key value ∨
      Gives line key value ∧ ∀ later ∈ lines, ∀ value', ¬ Gives later key value' := by
  constructor
  · rintro ⟨front, line', back, hlines, hgives, hlater⟩
    cases front with
    | nil =>
      obtain ⟨rfl, rfl⟩ := List.cons.inj hlines
      exact .inr ⟨hgives, hlater⟩
    | cons first front =>
      obtain ⟨rfl, rfl⟩ := List.cons.inj hlines
      exact .inl ⟨front, line', back, rfl, hgives, hlater⟩
  · rintro (⟨front, line', back, rfl, hgives, hlater⟩ | ⟨hgives, hlater⟩)
    · exact ⟨line :: front, line', back, rfl, hgives, hlater⟩
    · exact ⟨[], line, lines, rfl, hgives, hlater⟩

lemma LastGives.exists_gives (h : LastGives lines key value) :
    ∃ line ∈ lines, Gives line key value := by
  obtain ⟨front, line, back, rfl, hgives, -⟩ := h
  exact ⟨line, by simp, hgives⟩

lemma heed_of_gives (h : Gives line key value) : heed t line = t.insert key value := by
  simp only [heed, h.read_eq]

lemma heed_of_isIdle (h : IsIdle line) : heed t line = t := by
  simp only [heed, read_of_isIdle h]

/-- Among lines that fit the last one with a key counts, and what was set before counts only for
keys that no line has. -/
lemma get?_foldl_heed (h : ∀ line ∈ lines, Fits line) :
    (lines.foldl heed t).get? key = some value ↔
      LastGives lines key value ∨
        t.get? key = some value ∧ ∀ line ∈ lines, ∀ value', ¬ Gives line key value' := by
  induction lines generalizing t with
  | nil =>
    have hnone : ¬ LastGives [] key value := by
      rintro ⟨front, line, back, hnil, -⟩
      simp at hnil
    simp [hnone]
  | cons line lines ih =>
    obtain ⟨hline, hlines⟩ := List.forall_mem_cons.1 h
    rw [List.foldl_cons, ih hlines, lastGives_cons, or_assoc]
    refine or_congr_right ?_
    rcases hline with hidle | ⟨key', value', hgives⟩
    · have hnone : ∀ key value, ¬ Gives line key value := fun key value hgives =>
        hgives.not_isIdle hidle
      simp [heed_of_isIdle hidle, hnone]
    · rw [heed_of_gives hgives, Keyed.get?_insert, List.forall_mem_cons]
      by_cases hkey : key' = key
      · subst hkey
        have hvalue : value' = value ↔ Gives line key' value :=
          ⟨fun h => h ▸ hgives, fun h => (hgives.eq h).2⟩
        have hsome : ¬ ∀ value', ¬ Gives line key' value' := fun hnone => hnone _ hgives
        simp [hvalue, hsome]
      · have hnone : ∀ value, ¬ Gives line key value := fun value h => hkey (hgives.eq h).1
        simp [hkey, hnone]

lemma sorted_foldl_heed (ht : t.Sorted) (lines : List (List Char)) :
    (lines.foldl heed t).Sorted := by
  induction lines generalizing t with
  | nil => exact ht
  | cons line lines ih =>
    refine ih ?_
    unfold heed
    split
    · exact Keyed.Sorted.insert ht _ _
    · exact ht

/-! ### Texts -/

/-- An empty line at the end makes no difference. -/
lemma readLines_concat_nil (path : String) (n : ℕ) (t : Keyed String) (lines : List (List Char)) :
    readLines path n t (lines ++ [[]]) = readLines path n t lines := by
  induction lines generalizing n t with
  | nil => rfl
  | cons line lines ih =>
    rw [List.cons_append, readLines, readLines]
    split
    · exact ih _ _
    · exact ih _ _
    · rfl
    · rfl

lemma parse_eq (path content : String) : parse path content =
    (readLines path 1 [] (linesOf content)).map fun options => { path, options } := by
  obtain ⟨last, hlast, hlines⟩ := Text.map_trim_lines content
  have hsame : readLines path 1 [] (linesOf content)
      = readLines path 1 [] ((Text.lines content).map Text.trim) := by
    rw [linesOf, hlines]
    rcases List.prefix_cons_iff.1 hlast with rfl | ⟨rest, rfl, hrest⟩
    · rw [List.append_nil]
    · obtain rfl := List.prefix_nil.1 hrest
      exact readLines_concat_nil ..
  rw [hsame, parse]
  split <;> simp [Except.map, *]

/-- Which texts are configurations, and what they set. -/
lemma parse_eq_ok_iff {c : Config} : parse path content = .ok c ↔
    (∀ line ∈ linesOf content, Fits line) ∧ c.path = path ∧ c.options.Sorted ∧
      ∀ key value, c.options.get? key = some value ↔ LastGives (linesOf content) key value := by
  rw [parse_eq]
  constructor
  · intro h
    rcases fits_or_exists_offends path 1 (linesOf content) with
      hfits | ⟨front, line, back, e, hlines, hfront, hoffends⟩
    · rw [readLines_of_fits hfits] at h
      obtain rfl := Except.ok.inj h
      refine ⟨hfits, rfl, sorted_foldl_heed List.Pairwise.nil _, fun key value => ?_⟩
      rw [get?_foldl_heed hfits]
      simp [Keyed.get?]
    · rw [hlines, hoffends.readLines_append hfront] at h
      contradiction
  · rintro ⟨hfits, rfl, hsorted, hget⟩
    have hoptions : (linesOf content).foldl heed [] = c.options :=
      Keyed.Sorted.eq_of_get? (sorted_foldl_heed List.Pairwise.nil _) hsorted fun key value => by
        rw [get?_foldl_heed hfits, hget]
        simp [Keyed.get?]
    rw [readLines_of_fits hfits, hoptions]
    rfl

/-- Why a text is no configuration. -/
lemma parse_eq_error_iff : parse path content = .error e ↔
    ∃ front line back, linesOf content = front ++ line :: back ∧ (∀ l ∈ front, Fits l) ∧
      Offends path (front.length + 1) line e := by
  rw [parse_eq]
  constructor
  · intro h
    rcases fits_or_exists_offends path 1 (linesOf content) with
      hfits | ⟨front, line, back, e', hlines, hfront, hoffends⟩
    · rw [readLines_of_fits hfits] at h
      contradiction
    · rw [hlines, hoffends.readLines_append hfront] at h
      obtain rfl := Except.error.inj h
      exact ⟨front, line, back, hlines, hfront, Nat.add_comm .. ▸ hoffends⟩
  · rintro ⟨front, line, back, hlines, hfront, hoffends⟩
    rw [Nat.add_comm] at hoffends
    rw [hlines, hoffends.readLines_append hfront]
    rfl

lemma exists_parse_iff :
    (∃ c, parse path content = .ok c) ↔ ∀ line ∈ linesOf content, Fits line := by
  constructor
  · rintro ⟨c, h⟩
    exact (parse_eq_ok_iff.1 h).1
  · intro hfits
    rw [parse_eq, readLines_of_fits hfits]
    exact ⟨_, rfl⟩

/-- **A text is read by the grammar.**  It is a configuration exactly when each of its lines is
empty, a comment or gives a value to a key.  The options are then the keys of the lines that give
something, in order, each with what the last of its lines gives.  Otherwise the error names the
first line at fault by its number, and says whether the separator or the key is missing. -/
theorem parse_by_grammar (path content : String) :
    ((∃ c, parse path content = .ok c) ↔ ∀ line ∈ linesOf content, Fits line) ∧
    (∀ c, parse path content = .ok c ↔
      (∀ line ∈ linesOf content, Fits line) ∧ c.path = path ∧ c.options.Sorted ∧
        ∀ key value, c.options.get? key = some value ↔ LastGives (linesOf content) key value) ∧
    ∀ e, parse path content = .error e ↔
      ∃ front line back, linesOf content = front ++ line :: back ∧ (∀ l ∈ front, Fits l) ∧
        Offends path (front.length + 1) line e :=
  ⟨exists_parse_iff, fun _ => parse_eq_ok_iff, fun _ => parse_eq_error_iff⟩

example : parse "/c.conf" "# site\r\n\t; old\n a = 1\rb == \nc\n = 2" = .error (.config
    "/c.conf:4: expected 'key = value', got 'c'") := by decide +kernel

example : parse "/c.conf" "a=1\n\u00a0=\u2003x\n" = .error (.config "/c.conf:2: empty key") := by
  decide +kernel

/-! ### What can be written -/

/-- A key and a value that a line can give. -/
structure IsSetting (key value : String) : Prop where
  notIdle : ¬ IsIdle key.toList
  keyTrimmed : IsTrimmed key.toList
  keyWhole : '=' ∉ key.toList
  keyInLine : '\n' ∉ key.toList
  valueTrimmed : IsTrimmed value.toList
  valueInLine : '\n' ∉ value.toList

lemma isIdle_of_head? {line line' : List Char} (h : line.head? = line'.head?)
    (hidle : IsIdle line) : IsIdle line' := by
  rcases hidle with rfl | hidle
  · exact .inl (List.head?_eq_none_iff.1 h.symm)
  · exact .inr (h ▸ hidle)

/-- The text before the separator of a trimmed line begins with its key. -/
lemma head?_trim (hline : IsTrimmed (before ++ '=' :: after))
    (hkey : ∃ c ∈ before, Text.isBlank c = false) :
    (Text.trim before).head? = (before ++ '=' :: after).head? := by
  obtain ⟨front, back, hbefore, hfront, -⟩ := Text.exists_trim before
  obtain ⟨c, hc, hsolid⟩ := hkey
  have hnil : front = [] := by
    cases front with
    | nil => rfl
    | cons first front =>
      have hfirst : Text.isBlank first = false := hline.first first (by rw [hbefore]; rfl)
      simp [hfront first List.mem_cons_self] at hfirst
  have hne : Text.trim before ≠ [] := by
    rw [Ne, Text.trim_eq_nil_iff]
    intro hblank
    simp [hblank c hc] at hsolid
  obtain ⟨first, rest, htrim⟩ := List.exists_cons_of_ne_nil hne
  conv_rhs => rw [hbefore, hnil, htrim]
  rw [htrim]
  rfl

lemma Gives.isSetting (h : Gives line key value) (htrimmed : IsTrimmed line) (hline : '\n' ∉ line) :
    IsSetting key value := by
  cases h with
  | @intro before after hidle hfirst hkey =>
    have hbefore : '\n' ∉ before := mt (List.mem_append_left _) hline
    have hafter : '\n' ∉ after := fun h =>
      hline (List.mem_append_right _ (List.mem_cons_of_mem _ h))
    constructor <;> rw [String.toList_ofList]
    · exact mt (isIdle_of_head? (head?_trim htrimmed hkey)) hidle
    · exact Text.isTrimmed_trim before
    · exact mt Text.mem_of_mem_trim hfirst
    · exact mt Text.mem_of_mem_trim hbefore
    · exact Text.isTrimmed_trim after
    · exact mt Text.mem_of_mem_trim hafter

/-- The options that were read can be written. -/
lemma isSetting_of_parse {c : Config} (h : parse path content = .ok c)
    (hmem : (key, value) ∈ c.options) : IsSetting key value := by
  obtain ⟨-, -, hsorted, hget⟩ := parse_eq_ok_iff.1 h
  obtain ⟨line, hline, hgives⟩ :=
    ((hget key value).1 ((Keyed.Sorted.mem_iff hsorted).1 hmem)).exists_gives
  obtain ⟨piece, hpiece, rfl⟩ := List.mem_map.1 hline
  exact hgives.isSetting (Text.isTrimmed_trim piece)
    (mt Text.mem_of_mem_trim (Text.notMem_of_mem_split hpiece))

/-! ### Written lines -/

/-- The line that is written for an option. -/
def written (option : String × String) : List Char :=
  option.1.toList ++ ' ' :: '=' :: ' ' :: option.2.toList

lemma IsSetting.head?_written {tail : List Char} (h : IsSetting key value) :
    (key.toList ++ tail).head? = key.toList.head? := by
  obtain ⟨first, rest, hkey⟩ := List.exists_cons_of_ne_nil fun hnil => h.notIdle (.inl hnil)
  rw [hkey]
  rfl

/-- It gives the value to the key, once it is trimmed. -/
lemma IsSetting.gives_written (h : IsSetting key value) :
    Gives (Text.trim (written (key, value))) key value := by
  obtain ⟨first, rest, hkey⟩ := List.exists_cons_of_ne_nil fun hnil => h.notIdle (.inl hnil)
  have hblank : IsBlank [' '] := Text.isBlank_singleton (by decide)
  have hsolid : Text.isBlank first = false := h.keyTrimmed.first first (by rw [hkey]; rfl)
  -- what stands behind the separator, and the value that it stands for
  have hgives : ∀ after, Text.trim after = value.toList →
      Gives (key.toList ++ ' ' :: '=' :: after) key value := by
    intro after hafter
    have hwhole : '=' ∉ key.toList ++ [' '] := by simpa using h.keyWhole
    have hidle : ¬ IsIdle (key.toList ++ [' '] ++ '=' :: after) := by
      refine mt (isIdle_of_head? ?_) h.notIdle
      rw [List.append_assoc, h.head?_written]
    have htrim : Text.trim (key.toList ++ [' ']) = key.toList := by
      rw [← List.nil_append (key.toList ++ [' ']), ← List.append_assoc,
        Text.trim_append_append h.keyTrimmed Text.isBlank_nil hblank]
    have hintro := Gives.intro hidle hwhole ⟨first, by simp [hkey], hsolid⟩
    rw [htrim, hafter, String.ofList_toList, String.ofList_toList, List.append_assoc] at hintro
    exact hintro
  by_cases hvalue : value.toList = []
  · -- the blank behind the separator is trimmed
    have htrimmed : IsTrimmed (key.toList ++ [' ', '=']) := by
      refine ⟨fun c hc => h.keyTrimmed.first c (h.head?_written ▸ hc), fun c hc => ?_⟩
      obtain rfl : '=' = c := by simpa using hc
      decide
    have htrim : Text.trim (written (key, value)) = key.toList ++ [' ', '='] := by
      rw [← Text.trim_append_append htrimmed Text.isBlank_nil hblank]
      simp [written, hvalue]
    rw [htrim]
    exact hgives [] (by rw [hvalue]; rfl)
  · have htrimmed : IsTrimmed (written (key, value)) := by
      refine ⟨fun c hc => h.keyTrimmed.first c (h.head?_written ▸ hc), fun c hc => ?_⟩
      obtain ⟨init, last, hinit⟩ := (List.eq_nil_or_concat' value.toList).resolve_left hvalue
      have hend : written (key, value) = key.toList ++ ' ' :: '=' :: ' ' :: init ++ [last] := by
        simp [written, hinit]
      rw [hend, List.getLast?_concat] at hc
      exact h.valueTrimmed.last c (by rw [hinit, List.getLast?_concat, hc])
    rw [htrimmed.trim_eq]
    have htrim := Text.trim_surrounded value.toList hblank Text.isBlank_nil
    rw [h.valueTrimmed.trim_eq, List.append_nil] at htrim
    exact hgives (' ' :: value.toList) htrim

lemma IsSetting.notMem_written (h : IsSetting key value) : '\n' ∉ written (key, value) := by
  simp [written, h.keyInLine, h.valueInLine]

/-- The lines of a written text. -/
lemma linesOf_render {options : Keyed String} (h : ∀ o ∈ options, IsSetting o.1 o.2) :
    linesOf (render options) = options.map (fun o => Text.trim (written o)) ++ [[]] := by
  induction options with
  | nil => rfl
  | cons option options ih =>
    obtain ⟨hoption, hoptions⟩ := List.forall_mem_cons.1 h
    have hrender : (render (option :: options)).toList
        = written option ++ '\n' :: (render options).toList := by
      simp [render, written, String.join_cons]
    rw [linesOf, hrender, Text.split_append_cons, Text.split_of_notMem hoption.notMem_written,
      List.map_append, ← linesOf, ih hoptions]
    rfl

/-- The last line that gives something to a key is the one written for it. -/
lemma lastGives_written {options : Keyed String} (hsorted : options.Sorted)
    (h : ∀ o ∈ options, IsSetting o.1 o.2) :
    LastGives (options.map (fun o => Text.trim (written o)) ++ [[]]) key value ↔
      (key, value) ∈ options := by
  constructor
  · intro hlast
    obtain ⟨line, hline, hgives⟩ := hlast.exists_gives
    rcases List.mem_append.1 hline with hline | hline
    · obtain ⟨⟨key', value'⟩, hmem, rfl⟩ := List.mem_map.1 hline
      obtain ⟨rfl, rfl⟩ := hgives.eq (h _ hmem).gives_written
      exact hmem
    · obtain rfl := List.mem_singleton.1 hline
      exact absurd (.inl rfl) hgives.not_isIdle
  · intro hmem
    obtain ⟨front, back, rfl⟩ := List.append_of_mem hmem
    refine ⟨front.map (fun o => Text.trim (written o)), Text.trim (written (key, value)),
      back.map (fun o => Text.trim (written o)) ++ [[]], by simp, (h _ hmem).gives_written, ?_⟩
    intro line hline value' hgives
    rcases List.mem_append.1 hline with hline | hline
    · obtain ⟨⟨key', value''⟩, hlater, rfl⟩ := List.mem_map.1 hline
      have hmem' : (key', value'') ∈ front ++ (key, value) :: back := by simp [hlater]
      obtain ⟨rfl, -⟩ := hgives.eq (h _ hmem').gives_written
      -- later keys are greater
      have hlt := (List.pairwise_cons.1 (List.pairwise_append.1 hsorted).2.1).1 _ hlater
      exact String.lt_irrefl _ hlt
    · obtain rfl := List.mem_singleton.1 hline
      exact hgives.not_isIdle (.inl rfl)

/-- **What was read is read again once it was written.**  The options of a configuration, one line
for each in the order of the keys, are a configuration with just these options. -/
theorem parse_render {c : Config} (h : parse path content = .ok c) (path' : String) :
    parse path' (render c.options) = .ok { path := path', options := c.options } := by
  have hsettings : ∀ o ∈ c.options, IsSetting o.1 o.2 := fun _ hmem => isSetting_of_parse h hmem
  obtain ⟨-, -, hsorted, -⟩ := parse_eq_ok_iff.1 h
  refine parse_eq_ok_iff.2 ⟨fun line hline => ?_, rfl, hsorted, fun key value => ?_⟩
  · rw [linesOf_render hsettings] at hline
    rcases List.mem_append.1 hline with hline | hline
    · obtain ⟨o, hmem, rfl⟩ := List.mem_map.1 hline
      exact .inr ⟨_, _, (hsettings o hmem).gives_written⟩
    · exact .inl (.inl (List.mem_singleton.1 hline))
  · rw [linesOf_render hsettings, lastGives_written hsorted hsettings,
      Keyed.Sorted.mem_iff hsorted]

/-- A key with a carriage return in it, a value with a separator, and one that is empty. -/
theorem parse_render_carriageReturn :
    parse "/a.conf" "# site\nkey = old\r\n a\rb= x = y \n;\nkey =\n"
        = .ok ⟨"/a.conf", [("a\rb", "x = y"), ("key", "")]⟩ ∧
      parse "/b.conf" "a\rb = x = y\nkey = \n"
        = .ok ⟨"/b.conf", [("a\rb", "x = y"), ("key", "")]⟩ := by
  have hread : parse "/a.conf" "# site\nkey = old\r\n a\rb= x = y \n;\nkey =\n"
      = .ok ⟨"/a.conf", [("a\rb", "x = y"), ("key", "")]⟩ := by decide +kernel
  exact ⟨hread, parse_render hread "/b.conf"⟩

end Config

end EdgeNode
