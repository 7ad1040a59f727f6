import EdgeNode.Proofs.Subjects
/-!
# Subjects below a subject

What stands behind a subject and a dot is below it.  A pattern with an open end covers just what is
below the subjects that its front covers (`covers_openEnd_iff`), so with a literal front all that is
below it and nothing else (`covers_below_iff`), and two such patterns have a subject in common only
where one front goes on from the other.

A subject is well formed when none of its tokens is empty.  So are then both sides of a dot in it
(`wellFormed_below`), and what stands behind a text that is not well formed
(`WellFormed.of_append`).
-/

namespace EdgeNode.Subject

variable {s base front rest pattern subject : String} {ps qs ss : List Token}

/-! ### Tokens of what is below -/

lemma tokens_below (base rest : String) :
    tokens (base ++ "." ++ rest) = tokens base ++ tokens rest := by
  have hlist : (base ++ "." ++ rest).toList = base.toList ++ '.' :: rest.toList := by
    simp [String.toList_append]
  rw [tokens, hlist, Text.split_append_cons, tokens, tokens]

lemma tokens_ne_nil (s : String) : tokens s ≠ [] :=
  Text.split_ne_nil _ _

lemma tokens_openEnd : tokens ">" = [openEnd] := by decide

lemma tokens_of_dotless (h : '.' ∉ s.toList) : tokens s = [s.toList] :=
  Text.split_of_notMem h

/-- A subject that has more tokens than some is below the subject with these. -/
lemma exists_below {ts ts' : List Token} (h : tokens s = ts ++ ts') (hne : ts ≠ [])
    (hne' : ts' ≠ []) :
    ∃ front rest, s = front ++ "." ++ rest ∧ tokens front = ts ∧ tokens rest = ts' := by
  have hdots : ∀ t ∈ ts ++ ts', '.' ∉ t := fun t ht => dotless_of_mem_tokens (h ▸ ht)
  have hfront : tokens (ofTokens ts) = ts :=
    tokens_ofTokens hne fun t ht => hdots t (List.mem_append_left _ ht)
  have hrest : tokens (ofTokens ts') = ts' :=
    tokens_ofTokens hne' fun t ht => hdots t (List.mem_append_right _ ht)
  refine ⟨ofTokens ts, ofTokens ts', ?_, hfront, hrest⟩
  rw [← tokens_inj, tokens_below, h, hfront, hrest]

/-! ### Patterns in two parts -/

lemma matches_openEnd_iff : Matches [openEnd] ss ↔ ss ≠ [] := by
  constructor
  · intro h
    cases h with
    | same ht _ => exact absurd rfl ht
    | rest hss => exact hss
  · exact .rest

/-- What a pattern in two parts matches comes apart likewise, unless the first part leaves an open
end. -/
lemma matches_append_iff (hps : openEnd ∉ ps) :
    Matches (ps ++ qs) ss ↔
      ∃ front back, ss = front ++ back ∧ Matches ps front ∧ Matches qs back := by
  constructor
  · -- along the first part, of which every token faces one
    intro h
    induction ps generalizing ss with
    | nil => exact ⟨[], ss, rfl, .nil, h⟩
    | cons p ps ih =>
      obtain ⟨hp, htail⟩ := not_or.1 (mt List.mem_cons.2 hps)
      rw [List.cons_append] at h
      generalize hall : ps ++ qs = all at h
      cases h with
      | same ht h =>
        obtain ⟨front, back, rfl, hfront, hback⟩ := ih htail (hall ▸ h)
        exact ⟨p :: front, back, rfl, .same ht hfront, hback⟩
      | @any t _ _ ht h =>
        obtain ⟨front, back, rfl, hfront, hback⟩ := ih htail (hall ▸ h)
        exact ⟨t :: front, back, rfl, .any ht hfront, hback⟩
      | rest _ => exact absurd rfl hp
  · rintro ⟨front, back, rfl, hfront, hback⟩
    induction hfront with
    | nil => exact hback
    | same ht _ ih => exact .same ht (ih (mt (List.mem_cons_of_mem _) hps))
    | any ht _ ih => exact .any ht (ih (mt (List.mem_cons_of_mem _) hps))
    | rest _ => exact absurd List.mem_cons_self hps

/-- **A pattern with an open end covers what is below the subjects that its front covers.**  The
front must have no open end itself. -/
theorem covers_openEnd_iff : covers (base ++ ".>") subject = true ↔
    openEnd ∉ tokens base ∧
      ∃ front rest, subject = front ++ "." ++ rest ∧ covers base front = true := by
  have hpattern : tokens (base ++ ".>") = tokens base ++ [openEnd] := by
    rw [← tokens_openEnd, ← tokens_below, String.append_assoc]
    rfl
  rw [covers_iff, hpattern]
  constructor
  · intro h
    have hbase : openEnd ∉ tokens base := by
      intro hmem
      obtain ⟨before, after, hsplit⟩ := List.append_of_mem hmem
      rw [hsplit, List.append_assoc, List.cons_append] at h
      exact absurd h.eq_nil_of_openEnd (by simp)
    obtain ⟨fs, rs, hsubject, hfs, hrs⟩ := (matches_append_iff hbase).1 h
    -- a front with tokens can face a front with tokens only
    have hne : fs ≠ [] := by
      rintro rfl
      generalize hnone : tokens base = ps at hfs
      cases hfs with
      | nil => exact tokens_ne_nil base hnone
      | rest hss => exact hss rfl
    obtain ⟨front, rest, rfl, rfl, rfl⟩ := exists_below hsubject hne (matches_openEnd_iff.1 hrs)
    exact ⟨hbase, front, rest, rfl, covers_iff.2 hfs⟩
  · rintro ⟨hbase, front, rest, rfl, hfront⟩
    rw [tokens_below]
    exact (matches_append_iff hbase).2
      ⟨_, _, rfl, covers_iff.1 hfront, matches_openEnd_iff.2 (tokens_ne_nil rest)⟩

/-! ### Literal fronts -/

/-- No token of a text stands for others. -/
structure IsLiteral (s : String) : Prop where
  any : anyToken ∉ tokens s
  openEnd : openEnd ∉ tokens s

instance (s : String) : Decidable (IsLiteral s) :=
  decidable_of_iff (anyToken ∉ tokens s ∧ Subject.openEnd ∉ tokens s)
    ⟨fun ⟨h, h'⟩ => ⟨h, h'⟩, fun ⟨h, h'⟩ => ⟨h, h'⟩⟩

lemma covers_self (h : openEnd ∉ tokens s) : covers s s = true :=
  covers_iff.2 (.refl h)

lemma IsLiteral.covers_iff_eq (h : IsLiteral base) : covers base front = true ↔ base = front := by
  constructor
  · intro hcovers
    exact tokens_inj.1 ((covers_iff.1 hcovers).eq_of_plain h.any h.openEnd)
  · rintro rfl
    exact covers_self h.openEnd

/-- With a literal front an open pattern covers what is below it. -/
theorem covers_below_iff (h : IsLiteral base) :
    covers (base ++ ".>") subject = true ↔ ∃ rest, subject = base ++ "." ++ rest := by
  rw [covers_openEnd_iff, and_iff_right h.openEnd]
  constructor
  · rintro ⟨front, rest, rfl, hfront⟩
    obtain rfl := h.covers_iff_eq.1 hfront
    exact ⟨rest, rfl⟩
  · rintro ⟨rest, rfl⟩
    exact ⟨base, rest, rfl, covers_self h.openEnd⟩

/-- Of two literal fronts with a subject below both, one goes on from the other. -/
lemma prefix_or_prefix_of_covers {base' : String} (h : IsLiteral base) (h' : IsLiteral base')
    (hcovers : covers (base ++ ".>") subject = true)
    (hcovers' : covers (base' ++ ".>") subject = true) :
    tokens base <+: tokens base' ∨ tokens base' <+: tokens base := by
  obtain ⟨rest, hrest⟩ := (covers_below_iff h).1 hcovers
  obtain ⟨rest', hrest'⟩ := (covers_below_iff h').1 hcovers'
  have hfront : tokens base <+: tokens subject := by
    rw [hrest, tokens_below]
    exact List.prefix_append _ _
  have hfront' : tokens base' <+: tokens subject := by
    rw [hrest', tokens_below]
    exact List.prefix_append _ _
  exact List.prefix_or_prefix_of_prefix hfront hfront'

/-! ### Well-formed subjects -/

/-- No token of a subject is empty. -/
def WellFormed (s : String) : Prop :=
  ∀ t ∈ tokens s, t ≠ []

instance (s : String) : Decidable (WellFormed s) :=
  inferInstanceAs (Decidable (∀ t ∈ tokens s, t ≠ []))

/-- What is below a subject is well formed when both parts are. -/
lemma wellFormed_below : WellFormed (base ++ "." ++ rest) ↔ WellFormed base ∧ WellFormed rest := by
  rw [WellFormed, tokens_below, List.forall_mem_append]
  rfl

lemma not_wellFormed_empty : ¬ WellFormed "" := by decide

lemma wellFormed_of_dotless (h : '.' ∉ s.toList) : WellFormed s ↔ s ≠ "" := by
  rw [WellFormed, tokens_of_dotless h, List.forall_mem_singleton]
  exact not_congr String.toList_eq_nil_iff

lemma exists_first_token (h : '.' ∈ s.toList) :
    ∃ first later, s = first ++ "." ++ later ∧ '.' ∉ first.toList := by
  obtain ⟨first, later, hsplit, hfree⟩ := List.eq_append_cons_of_mem h
  refine ⟨String.ofList first, String.ofList later, ?_, by simpa using hfree⟩
  rw [← String.toList_inj, hsplit]
  simp [String.toList_append]

/-- A subject with a dot is below all but its last token. -/
lemma exists_last_token (h : '.' ∈ s.toList) :
    ∃ front last, s = front ++ "." ++ last ∧ '.' ∉ last.toList := by
  -- the last dot is the first one from behind
  obtain ⟨behind, before, hrev, hfree⟩ := List.eq_append_cons_of_mem (List.mem_reverse.2 h)
  refine ⟨String.ofList before.reverse, String.ofList behind.reverse, ?_, by simpa using hfree⟩
  have hlist : s.toList = before.reverse ++ '.' :: behind.reverse := by
    rw [← List.reverse_reverse s.toList, hrev]
    simp
  rw [← String.toList_inj, hlist]
  simp [String.toList_append]

/-- What is left of a well-formed subject behind a text is well formed unless nothing is left or the
text ended a token there. -/
lemma WellFormed.rest_iff (h : WellFormed (front ++ rest)) :
    WellFormed rest ↔ rest ≠ "" ∧ ∀ further, rest ≠ "." ++ further := by
  constructor
  · intro hrest
    constructor
    · rintro rfl
      exact not_wellFormed_empty hrest
    · rintro further rfl
      have hbelow : WellFormed ("" ++ "." ++ further) := by simpa using hrest
      exact not_wellFormed_empty (wellFormed_below.1 hbelow).1
  · rintro ⟨hne, hdot⟩
    by_cases hmem : '.' ∈ rest.toList
    · obtain ⟨first, later, rfl, hfirst⟩ := exists_first_token hmem
      -- all tokens but the first are those of the whole subject
      have hlater : WellFormed later := by
        rw [← String.append_assoc, ← String.append_assoc, wellFormed_below] at h
        exact h.2
      refine wellFormed_below.2 ⟨(wellFormed_of_dotless hfirst).2 ?_, hlater⟩
      rintro rfl
      exact hdot later (by simp)
    · exact (wellFormed_of_dotless hmem).2 hne

/-- What a well-formed subject goes on with behind a text that is not well formed is well formed:
such a text is empty or ends a token. -/
lemma WellFormed.of_append (h : WellFormed (front ++ rest)) (hfront : ¬ WellFormed front) :
    WellFormed rest := by
  by_cases hdot : '.' ∈ front.toList
  · obtain ⟨above, last, rfl, hlast⟩ := exists_last_token hdot
    rw [String.append_assoc, wellFormed_below] at h
    have hempty : last = "" := by
      by_contra hne
      exact hfront (wellFormed_below.2 ⟨h.1, (wellFormed_of_dotless hlast).2 hne⟩)
    subst hempty
    simpa using h.2
  · have hempty : front = "" := by
      by_contra hne
      exact hfront ((wellFormed_of_dotless hdot).2 hne)
    subst hempty
    simpa using h

end EdgeNode.Subject
