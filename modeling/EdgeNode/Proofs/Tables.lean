import EdgeNode.Keyed
import Mathlib.Data.List.Sort
/-!
# Tables

What a table has is found under its keys, and in a sorted table nothing else matters: two of them in
which the same is found are equal.  An entry divides a sorted table into what has lesser keys, before
it, and what has greater ones.
-/

namespace EdgeNode

namespace Keyed

variable {α : Type*} {t : Keyed α}

lemma mem_keys_iff {key : String} : key ∈ t.keys ↔ t.has key := by
  rw [keys, List.mem_map, has, get?, Option.isSome_map, List.find?_isSome]
  simp only [beq_iff_eq]

lemma has_of_mem {key : String} {a : α} (h : (key, a) ∈ t) : t.has key :=
  mem_keys_iff.1 (List.mem_map_of_mem h)

lemma has_iff {key : String} : t.has key ↔ ∃ a, t.get? key = some a :=
  Option.isSome_iff_exists

/-- A value that is replaced leaves the keys as they were. -/
lemma keys_insert (ht : Sorted t) {key : String} (hkey : t.has key) (a : α) :
    (t.insert key a).keys = t.keys := by
  induction t with
  | nil => contradiction
  | cons e t ih =>
    obtain ⟨k, b⟩ := e
    obtain ⟨hhead, htail⟩ := List.pairwise_cons.1 ht
    by_cases hk : key = k
    · subst hk
      simp [insert, keys]
    · have hrest : has t key := by
        rw [has, get?_cons, if_neg (Ne.symm hk)] at hkey
        exact hkey
      -- the key stands further down, so that it is not below the head
      obtain ⟨⟨k', c⟩, hmem, rfl⟩ := List.mem_map.1 (mem_keys_iff.2 hrest)
      have hnot : ¬ k' < k := fun hlt => String.lt_irrefl k (String.lt_trans (hhead _ hmem) hlt)
      have hkeys := ih htail hrest
      rw [insert, if_neg hk, if_neg hnot]
      exact congrArg (k :: ·) hkeys

lemma sorted_ofList (l : List (String × α)) : Sorted (ofList l) := by
  have hall : ∀ t : Keyed α, Sorted t → Sorted (l.foldl (fun t e => t.insert e.1 e.2) t) := by
    induction l with
    | nil => exact fun _ ht => ht
    | cons e l ih => exact fun t ht => ih _ (ht.insert e.1 e.2)
  exact hall [] List.Pairwise.nil

/-- A table that has one value for all its keys. -/
lemma get?_ofList_const (names : List String) (a : α) (key : String) :
    (ofList (names.map fun name => (name, a))).get? key
      = if key ∈ names then some a else none := by
  have hall : ∀ t : Keyed α,
      ((names.map fun name => (name, a)).foldl (fun t e => t.insert e.1 e.2) t).get? key
        = if key ∈ names then some a else t.get? key := by
    induction names with
    | nil => simp
    | cons name names ih =>
      intro t
      rw [List.map_cons, List.foldl_cons, ih, get?_insert]
      by_cases hmem : key ∈ names
      · simp [hmem]
      · by_cases hname : name = key
        · simp [hname]
        · simp [hmem, hname, Ne.symm hname]
  exact hall []

/-- Sorted tables in which the same is found are equal. -/
lemma Sorted.eq_of_get? {t t' : Keyed α} (ht : t.Sorted) (ht' : t'.Sorted)
    (h : ∀ key a, t.get? key = some a ↔ t'.get? key = some a) : t = t' := by
  have : Std.Irrefl fun a b : String × α => a.1 < b.1 := ⟨fun a => String.lt_irrefl a.1⟩
  have : Std.Asymm fun a b : String × α => a.1 < b.1 := ⟨fun _ _ => String.lt_asymm⟩
  refine List.Pairwise.eq_of_mem_iff ht ht' fun ⟨key, a⟩ => ?_
  rw [Keyed.Sorted.mem_iff ht, Keyed.Sorted.mem_iff ht', h]

/-- A table that a new key is put into has that entry and those that it had. -/
lemma mem_insert_iff (ht : t.Sorted) {key : String} (hnew : ¬ t.has key) (a : α)
    (e : String × α) : e ∈ t.insert key a ↔ e ∈ t ∨ e = (key, a) := by
  obtain ⟨k, b⟩ := e
  rw [Sorted.mem_iff (ht.insert key a), Sorted.mem_iff ht, get?_insert]
  by_cases hk : key = k
  · subst hk
    have hnone : t.get? key = none := by simpa [has] using hnew
    simp [hnone, eq_comm]
  · simp [hk, Ne.symm hk]

lemma Sorted.nodup_keys (ht : t.Sorted) : (t.map Prod.fst).Nodup := by
  refine List.pairwise_map.2 (ht.imp ?_)
  rintro a b hlt heq
  exact String.lt_irrefl b.1 (heq ▸ hlt)

/-- The first of the entries that a sorted table lists has the least key. -/
lemma Sorted.front_lt {front back : Keyed α} {e : String × α}
    (ht : Sorted (front ++ e :: back)) : ∀ d ∈ front, d.1 < e.1 := by
  intro d hd
  exact (List.pairwise_append.1 ht).2.2 d hd e List.mem_cons_self

lemma Sorted.lt_back {front back : Keyed α} {e : String × α}
    (ht : Sorted (front ++ e :: back)) : ∀ d ∈ back, e.1 < d.1 := by
  intro d hd
  exact (List.pairwise_cons.1 (List.pairwise_append.1 ht).2.1).1 d hd

/-- What stands before an entry of a sorted table is what has a lesser key. -/
lemma Sorted.mem_front_iff {front back : Keyed α} {e d : String × α}
    (ht : Sorted (front ++ e :: back)) :
    d ∈ front ↔ d.1 < e.1 ∧ d ∈ front ++ e :: back := by
  constructor
  · intro hd
    exact ⟨ht.front_lt d hd, List.mem_append_left _ hd⟩
  · rintro ⟨hlt, hd⟩
    rcases List.mem_append.1 hd with hd | hd
    · exact hd
    · exfalso
      rcases List.mem_cons.1 hd with rfl | hd
      · exact String.lt_irrefl _ hlt
      · exact String.lt_asymm hlt (ht.lt_back d hd)

end Keyed

end EdgeNode
