import EdgeNode.Proofs.Paths
import EdgeNode.Subject
/-!
# Which subjects a pattern covers

`Subject.Matches` is the grammar of patterns: one rule for each way in which the tokens of a pattern
can face those of a subject.  Covering is exactly that.  So a pattern without wildcards covers itself
only, and a pattern covers no less when one of its tokens is widened to stand for any, or when it is
cut off and its rest left open.
-/

namespace EdgeNode.Subject

/-! ### Tokens -/

/-- A token of a subject or of a pattern. -/
abbrev Token := List Char

/-- The token of a pattern that stands for one token. -/
def anyToken : Token := ['*']

/-- The token of a pattern that stands for all tokens that are left. -/
def openEnd : Token := ['>']

/-- The subject with the given tokens. -/
def ofTokens (ts : List Token) : String :=
  String.ofList (Text.join '.' ts)

@[simp] lemma ofTokens_tokens (s : String) : ofTokens (tokens s) = s := by
  rw [ofTokens, tokens, Text.join_split, String.ofList_toList]

/-- The tokens of a subject are what stands between its dots. -/
lemma tokens_eq_iff {s : String} {ts : List Token} :
    tokens s = ts ↔ ts ≠ [] ∧ (∀ t ∈ ts, '.' ∉ t) ∧ ofTokens ts = s := by
  constructor
  · rintro rfl
    exact ⟨Text.split_ne_nil _ _, fun t => Text.notMem_of_mem_split, ofTokens_tokens s⟩
  · rintro ⟨hne, hdots, rfl⟩
    rw [tokens, ofTokens, String.toList_ofList, Text.split_join hne hdots]

lemma tokens_ofTokens {ts : List Token} (hne : ts ≠ []) (hdots : ∀ t ∈ ts, '.' ∉ t) :
    tokens (ofTokens ts) = ts :=
  tokens_eq_iff.2 ⟨hne, hdots, rfl⟩

lemma tokens_inj {s s' : String} : tokens s = tokens s' ↔ s = s' := by
  refine ⟨fun h => ?_, congrArg tokens⟩
  rw [← ofTokens_tokens s, h, ofTokens_tokens]

/-! ### The grammar -/

/-- The tokens of a pattern match those of a subject. -/
inductive Matches : List Token → List Token → Prop
  /-- Both have ended. -/
  | nil : Matches [] []
  /-- A token faces itself. -/
  | same {t : Token} {ps ss : List Token} (ht : t ≠ openEnd) (h : Matches ps ss) :
      Matches (t :: ps) (t :: ss)
  /-- Any token that is not empty is faced. -/
  | any {s : Token} {ps ss : List Token} (hs : s ≠ []) (h : Matches ps ss) :
      Matches (anyToken :: ps) (s :: ss)
  /-- All that is left is faced at once, one token or more. -/
  | rest {ss : List Token} (hss : ss ≠ []) : Matches [openEnd] ss

lemma coversTokens_openEnd (ps ss : List Token) :
    coversTokens (openEnd :: ps) ss = (ps.isEmpty && !ss.isEmpty) := by
  cases ss <;> simp [coversTokens, openEnd]

lemma coversTokens_cons {p : Token} (hp : p ≠ openEnd) (s : Token) (ps ss : List Token) :
    coversTokens (p :: ps) (s :: ss)
      = ((if p = anyToken then !s.isEmpty else p == s) && coversTokens ps ss) := by
  rw [coversTokens]
  exact if_neg hp

/-- **Covering is matching.** -/
theorem coversTokens_iff {ps ss : List Token} : coversTokens ps ss = true ↔ Matches ps ss := by
  constructor
  · -- along the pattern: its first token says which rule it was
    intro h
    induction ps generalizing ss with
    | nil =>
      cases ss with
      | nil => exact .nil
      | cons s ss => contradiction
    | cons p ps ih =>
      by_cases hp : p = openEnd
      · subst hp
        rw [coversTokens_openEnd, Bool.and_eq_true, List.isEmpty_iff] at h
        obtain ⟨rfl, hss⟩ := h
        exact .rest (by simpa using hss)
      · cases ss with
        | nil => simp [coversTokens, show p ≠ ['>'] from hp] at h
        | cons s ss =>
          rw [coversTokens_cons hp, Bool.and_eq_true] at h
          obtain ⟨hface, hrest⟩ := h
          split at hface
          · next hany =>
            subst hany
            exact .any (by simpa using hface) (ih hrest)
          · obtain rfl := beq_iff_eq.1 hface
            exact .same hp (ih hrest)
  · intro h
    induction h with
    | nil => rfl
    -- a token that stands for any faces itself too, as long as it is not empty
    | @same t ps ss ht _ ih =>
      rw [coversTokens_cons ht, ih, Bool.and_true]
      split
      · next hany => rw [hany]; rfl
      · exact beq_self_eq_true t
    | any hs _ ih =>
      rw [coversTokens_cons (by decide), ih, Bool.and_true, if_pos rfl]
      simpa using hs
    | rest hss =>
      rw [coversTokens_openEnd]
      simpa using hss

namespace Matches

variable {ps ss : List Token}

lemma refl (h : openEnd ∉ ps) : Matches ps ps := by
  induction ps with
  | nil => exact .nil
  | cons p ps ih =>
    obtain ⟨hp, hps⟩ := not_or.1 (mt List.mem_cons.2 h)
    exact .same (Ne.symm hp) (ih hps)

lemma eq_of_plain (h : Matches ps ss) (hany : anyToken ∉ ps) (hopen : openEnd ∉ ps) : ps = ss := by
  induction h with
  | nil => rfl
  | same _ _ ih =>
    rw [ih (mt (List.mem_cons_of_mem _) hany) (mt (List.mem_cons_of_mem _) hopen)]
  | any _ _ _ => exact absurd List.mem_cons_self hany
  | rest _ => exact absurd List.mem_cons_self hopen

/-- All that is left is left to the last token of a pattern only. -/
lemma eq_nil_of_openEnd {before after : List Token} (h : Matches (before ++ openEnd :: after) ss) :
    after = [] := by
  induction before generalizing ss with
  | nil =>
    rw [List.nil_append] at h
    cases h with
    | same ht _ => exact absurd rfl ht
    | rest _ => rfl
  | cons p before ih =>
    -- the rule for all that is left needs a pattern of one token
    rw [List.cons_append] at h
    generalize hrest : before ++ openEnd :: after = rest at h ih
    cases h with
    | same _ h => exact ih h
    | any _ h => exact ih h
    | rest _ => simp at hrest

/-- A token that faces one that is not empty may be widened to stand for any. -/
lemma set_any (h : Matches ps ss) {i : Nat} {p s : Token} (hp : ps[i]? = some p)
    (hopen : p ≠ openEnd) (hs : ss[i]? = some s) (hne : s ≠ []) :
    Matches (ps.set i anyToken) ss := by
  induction h generalizing i with
  | nil => simp at hp
  | @same t _ _ ht h ih =>
    cases i with
    | zero =>
      obtain rfl : t = s := by simpa using hs
      exact .any hne h
    | succ i => exact .same ht (ih (by simpa using hp) (by simpa using hs))
  | any hs' h ih =>
    cases i with
    | zero => exact .any hs' h
    | succ i => exact .any hs' (ih (by simpa using hp) (by simpa using hs))
  | rest _ =>
    cases i with
    | zero => exact absurd (by simpa using hp.symm) hopen
    | succ i => simp at hp

/-- A pattern may be cut off before its last token and its rest left open. -/
lemma take_openEnd (h : Matches ps ss) {n : Nat} (hn : n < ps.length) :
    Matches (ps.take n ++ [openEnd]) ss := by
  induction h generalizing n with
  | nil => exact absurd hn (Nat.not_lt_zero n)
  | same ht _ ih =>
    cases n with
    -- where it is cut off, at least the token faced here is left
    | zero => exact .rest (List.cons_ne_nil _ _)
    | succ n => exact .same ht (ih (Nat.lt_of_succ_lt_succ hn))
  | any hs _ ih =>
    cases n with
    | zero => exact .rest (List.cons_ne_nil _ _)
    | succ n => exact .any hs (ih (Nat.lt_of_succ_lt_succ hn))
  | rest hss =>
    obtain rfl : n = 0 := Nat.lt_one_iff.1 hn
    exact .rest hss

end Matches

/-! ### Patterns -/

lemma covers_iff {pattern subject : String} :
    covers pattern subject = true ↔ Matches (tokens pattern) (tokens subject) :=
  coversTokens_iff

/-- A pattern that is given by its tokens. -/
lemma covers_ofTokens_iff {ps : List Token} {subject : String} (hne : ps ≠ [])
    (hdots : ∀ p ∈ ps, '.' ∉ p) :
    covers (ofTokens ps) subject = true ↔ Matches ps (tokens subject) := by
  rw [covers_iff, tokens_ofTokens hne hdots]

lemma dotless_of_mem_tokens {s : String} {t : Token} (h : t ∈ tokens s) : '.' ∉ t :=
  Text.notMem_of_mem_split h

/-- **A pattern covers what its tokens match.**  Whatever stands for all that is left must be the
last token; a pattern without wildcards covers nothing but itself; and a pattern still covers a
subject after one of its tokens was widened to stand for any, or after it was cut off and its rest
left open. -/
theorem covers_iff_matches (pattern subject : String) :
    (covers pattern subject = true ↔ Matches (tokens pattern) (tokens subject)) ∧
    (∀ before after, tokens pattern = before ++ openEnd :: after → after ≠ [] →
      covers pattern subject = false) ∧
    (anyToken ∉ tokens pattern → openEnd ∉ tokens pattern →
      (covers pattern subject = true ↔ pattern = subject)) ∧
    (covers pattern subject = true →
      (∀ i p s, (tokens pattern)[i]? = some p → p ≠ openEnd →
        (tokens subject)[i]? = some s → s ≠ [] →
        covers (ofTokens ((tokens pattern).set i anyToken)) subject = true) ∧
      ∀ n < (tokens pattern).length,
        covers (ofTokens ((tokens pattern).take n ++ [openEnd])) subject = true) := by
  refine ⟨covers_iff, fun before after hsplit hafter => ?_, fun hany hopen => ⟨fun h => ?_, ?_⟩,
    fun h => ⟨fun i p s hp hopen hs hne => ?_, fun n hn => ?_⟩⟩
  · refine Bool.eq_false_iff.2 fun h => hafter ?_
    rw [covers_iff, hsplit] at h
    exact h.eq_nil_of_openEnd
  · exact tokens_inj.1 ((covers_iff.1 h).eq_of_plain hany hopen)
  · rintro rfl
    exact covers_iff.2 (.refl hopen)
  · -- the tokens are those of the pattern that they make only if none has a dot
    have hlength : (tokens pattern).set i anyToken ≠ [] := by
      simpa using show tokens pattern ≠ [] from Text.split_ne_nil _ _
    have hdots : ∀ t ∈ (tokens pattern).set i anyToken, '.' ∉ t := by
      intro t ht
      rcases List.mem_or_eq_of_mem_set ht with ht | rfl
      · exact dotless_of_mem_tokens ht
      · decide
    exact (covers_ofTokens_iff hlength hdots).2 ((covers_iff.1 h).set_any hp hopen hs hne)
  · have hdots : ∀ t ∈ (tokens pattern).take n ++ [openEnd], '.' ∉ t := by
      intro t ht
      rcases List.mem_append.1 ht with ht | ht
      · exact dotless_of_mem_tokens (List.mem_of_mem_take ht)
      · obtain rfl := List.mem_singleton.1 ht
        decide
    exact (covers_ofTokens_iff (by simp) hdots).2 ((covers_iff.1 h).take_openEnd hn)

/-- The pattern of a stream covers what stands below it at any depth, and goes on to do so with its
second token widened and with all behind its first token left open. -/
theorem covers_iff_matches_nodes :
    Matches (tokens "machine_room.nodes.>") (tokens "machine_room.nodes.n1.extra") ∧
      covers "machine_room.*.>" "machine_room.nodes.n1.extra" = true ∧
      covers "machine_room.>" "machine_room.nodes.n1.extra" = true := by
  obtain ⟨hmatches, -, -, hwider⟩ :=
    covers_iff_matches "machine_room.nodes.>" "machine_room.nodes.n1.extra"
  have hcovers : covers "machine_room.nodes.>" "machine_room.nodes.n1.extra" = true := by decide
  refine ⟨hmatches.1 hcovers, ?_, ?_⟩
  · exact (hwider hcovers).1 1 "nodes".toList "nodes".toList
      (by decide) (by decide) (by decide) (by decide)
  · exact (hwider hcovers).2 1 (by decide)

end EdgeNode.Subject
