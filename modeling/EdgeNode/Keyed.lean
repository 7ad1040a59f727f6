/-!
# Tables in key order

A table maps texts to values and lists its entries in the order of the keys (by code point, which
is also the byte order of their UTF-8 encodings).  It is a plain list of pairs; `Keyed.insert`
keeps it sorted and free of repeated keys.
-/

universe u v

namespace EdgeNode

/-- A table from texts to values, listed by key. -/
abbrev Keyed (α : Type u) := List (String × α)

namespace Keyed

variable {α : Type u} {β : Type v}

/-- The value at a key. -/
def get? (t : Keyed α) (key : String) : Option α :=
  (t.find? fun e => e.1 == key).map Prod.snd

/-- Whether a key has a value. -/
def has (t : Keyed α) (key : String) : Bool :=
  (t.get? key).isSome

/-- The keys in order. -/
def keys (t : Keyed α) : List String :=
  t.map Prod.fst

/-- The values in the order of their keys. -/
def values (t : Keyed α) : List α :=
  t.map Prod.snd

/-- The table with a value at a key, in place of the value that was there. -/
def insert : Keyed α → String → α → Keyed α
  | [], key, a => [(key, a)]
  | (k, b) :: rest, key, a =>
    if key = k then (key, a) :: rest
    else if key < k then (key, a) :: (k, b) :: rest
    else (k, b) :: insert rest key a

/-- The table without a key. -/
def erase (t : Keyed α) (key : String) : Keyed α :=
  t.filter fun e => e.1 != key

/-- The table that results from inserting the pairs from left to right. -/
def ofList (l : List (String × α)) : Keyed α :=
  l.foldl (fun t e => t.insert e.1 e.2) []

/-- The table with every value replaced. -/
def mapValues (t : Keyed α) (f : α → β) : Keyed β :=
  t.map fun e => (e.1, f e.2)

/-- The table with the value at a key changed, if the key is there. -/
def modify (t : Keyed α) (key : String) (f : α → α) : Keyed α :=
  t.map fun e => if e.1 = key then (e.1, f e.2) else e

/-- A table is sorted when its keys strictly increase. -/
def Sorted (t : Keyed α) : Prop :=
  t.Pairwise fun a b => a.1 < b.1

theorem get?_cons (k : String) (b : α) (t : Keyed α) (key : String) :
    get? ((k, b) :: t) key = if k = key then some b else get? t key := by
  by_cases h : k = key <;> simp [get?, h]

@[simp] theorem get?_insert (t : Keyed α) (k key : String) (a : α) :
    (t.insert k a).get? key = if k = key then some a else t.get? key := by
  induction t with
  | nil => simp [insert, get?_cons]
  | cons e t ih =>
    obtain ⟨k', b⟩ := e
    simp only [insert]
    split
    · subst_vars
      simp only [get?_cons]
      split <;> rfl
    · split
      · simp only [get?_cons]
      · simp only [get?_cons, ih]
        split
        · subst_vars
          simp_all
        · rfl

theorem get?_modify (t : Keyed α) (k key : String) (f : α → α) :
    (t.modify k f).get? key = if k = key then (t.get? key).map f else t.get? key := by
  induction t with
  | nil => simp [modify, get?]
  | cons e t ih =>
    obtain ⟨k', b⟩ := e
    have htail : modify ((k', b) :: t) k f
        = (if k' = k then (k', f b) else (k', b)) :: modify t k f :=
      rfl
    rw [htail]
    by_cases hk : k' = k
    · subst hk
      simp only [if_true, get?_cons, ih]
      split <;> rfl
    · rw [if_neg hk, get?_cons, get?_cons, ih]
      by_cases hkey : k' = key
      · subst hkey
        simp [Ne.symm hk]
      · simp [hkey]

theorem mem_insert {t : Keyed α} {k : String} {a : α} {e : String × α} (h : e ∈ t.insert k a) :
    e = (k, a) ∨ e ∈ t := by
  induction t with
  | nil => simpa [insert] using h
  | cons d t ih =>
    obtain ⟨k', b⟩ := d
    simp only [insert] at h
    split at h
    · rcases List.mem_cons.1 h with rfl | h
      · exact .inl rfl
      · exact .inr (List.mem_cons_of_mem _ h)
    · split at h
      · rcases List.mem_cons.1 h with rfl | h
        · exact .inl rfl
        · exact .inr h
      · rcases List.mem_cons.1 h with rfl | h
        · exact .inr List.mem_cons_self
        · exact (ih h).imp_right (List.mem_cons_of_mem _)

namespace Sorted

theorem insert {t : Keyed α} (ht : Sorted t) (k : String) (a : α) : Sorted (t.insert k a) := by
  induction t with
  | nil => exact List.pairwise_singleton _ _
  | cons d t ih =>
    obtain ⟨k', b⟩ := d
    obtain ⟨hhead, htail⟩ := List.pairwise_cons.1 ht
    simp only [Keyed.insert]
    split
    · next hk =>
      subst hk
      exact List.pairwise_cons.2 ⟨hhead, htail⟩
    · next hne =>
      split
      · next hlt =>
        refine List.pairwise_cons.2 ⟨fun e he => ?_, ht⟩
        rcases List.mem_cons.1 he with rfl | he
        · exact hlt
        · exact String.lt_trans hlt (hhead e he)
      · next hnlt =>
        refine List.pairwise_cons.2 ⟨fun e he => ?_, ih htail⟩
        rcases mem_insert he with rfl | he
        · -- neither equal nor below: the new key lies above the head
          exact String.not_le.1 fun hle => hne (String.le_antisymm hle hnlt)
        · exact hhead e he

theorem modify {t : Keyed α} (ht : Sorted t) (k : String) (f : α → α) : Sorted (t.modify k f) := by
  refine List.pairwise_map.2 (ht.imp ?_)
  intro a b hab
  split <;> split <;> exact hab

/-- In a sorted table every entry is found under its key. -/
theorem mem_iff {t : Keyed α} (ht : Sorted t) {k : String} {a : α} :
    (k, a) ∈ t ↔ t.get? k = some a := by
  induction t with
  | nil => simp [get?]
  | cons d t ih =>
    obtain ⟨k', b⟩ := d
    obtain ⟨hhead, htail⟩ := List.pairwise_cons.1 ht
    rw [get?_cons, List.mem_cons]
    by_cases hk : k' = k
    · subst hk
      have hno : (k', a) ∉ t := fun h => String.lt_irrefl k' (hhead (k', a) h)
      simp [hno, eq_comm]
    · rw [if_neg hk, ← ih htail]
      simp [Ne.symm hk]

/-- In a sorted table the first entry with a property has the least key of those that have it. -/
theorem find?_eq_some_iff {t : Keyed α} (ht : Sorted t) {p : String × α → Bool} {k : String}
    {a : α} :
    t.find? p = some (k, a) ↔
      t.get? k = some a ∧ p (k, a) ∧ ∀ k' b, t.get? k' = some b → p (k', b) → k ≤ k' := by
  induction t with
  | nil => simp [get?]
  | cons d t ih =>
    obtain ⟨k₀, b₀⟩ := d
    obtain ⟨hhead, htail⟩ := List.pairwise_cons.1 ht
    have hfirst : ∀ k' b, get? t k' = some b → k₀ < k' := fun k' b h =>
      hhead (k', b) ((mem_iff htail).2 h)
    by_cases hp : p (k₀, b₀)
    · rw [List.find?_cons_of_pos hp, Option.some.injEq, Prod.mk.injEq]
      constructor
      · rintro ⟨rfl, rfl⟩
        refine ⟨by simp [get?_cons], hp, fun k' b hb _ => ?_⟩
        rw [get?_cons] at hb
        split at hb
        · next h => exact h ▸ String.le_refl _
        · exact fun hlt => String.lt_irrefl _ (String.lt_trans (hfirst k' b hb) hlt)
      · rintro ⟨hk, -, hleast⟩
        have hle : k ≤ k₀ := hleast k₀ b₀ (by simp [get?_cons]) hp
        rw [get?_cons] at hk
        split at hk
        · next h => exact ⟨h, Option.some.inj hk⟩
        · exact absurd (hfirst k a hk) hle
    · rw [List.find?_cons_of_neg hp, ih htail]
      constructor
      · rintro ⟨hk, hpk, hleast⟩
        have hne : k₀ ≠ k := fun h => String.lt_irrefl _ (h ▸ hfirst k a hk)
        refine ⟨by rw [get?_cons, if_neg hne, hk], hpk, fun k' b hb hpb => ?_⟩
        rw [get?_cons] at hb
        split at hb
        · next h =>
          obtain rfl := h
          obtain rfl := Option.some.inj hb
          exact absurd hpb hp
        · exact hleast k' b hb hpb
      · rintro ⟨hk, hpk, hleast⟩
        rw [get?_cons] at hk
        split at hk
        · next h =>
          obtain rfl := h
          obtain rfl := Option.some.inj hk
          exact absurd hpk hp
        · refine ⟨hk, hpk, fun k' b hb hpb => hleast k' b ?_ hpb⟩
          have hne : k₀ ≠ k' := fun h => String.lt_irrefl _ (h ▸ hfirst k' b hb)
          rw [get?_cons, if_neg hne, hb]

end Sorted

end Keyed

end EdgeNode
