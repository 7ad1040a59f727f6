import EdgeNode.Plugins
import EdgeNode.Proofs.Tables
import Mathlib.Data.List.Nodup
/-!
# What a registry of plugins comes to hold

The first load fills a registry, and whatever is loaded after it changes nothing.  Plugins are
registered in turn up to the first key that is taken: the built-in ones, whose keys all differ, then
the further ones in the order of their keys.  So the first key of theirs that is also a built-in one
is where registration ends, and what lies before it stays (`PluginRegistry.Holds`).
-/

namespace EdgeNode

namespace PluginRegistry

variable {t t' extra : Keyed Plugin} {l l' : List (String × Plugin)} {r : PluginRegistry}

/-! ### Registering in turn -/

lemma registerAll_append (h : registerAll t l = (.ok (), t')) (l' : List (String × Plugin)) :
    registerAll t (l ++ l') = registerAll t' l' := by
  induction l generalizing t with
  | nil =>
    obtain ⟨-, rfl⟩ := Prod.mk.inj h
    rfl
  | cons e l ih =>
    rw [registerAll] at h
    rw [List.cons_append, registerAll]
    split at h
    · exact absurd (congrArg Prod.fst h) (by simp)
    · next hnew =>
      rw [if_neg hnew]
      exact ih h

/-- Plugins with keys that are free and all differ are all registered. -/
lemma registerAll_free (ht : t.Sorted) (hdistinct : (l.map Prod.fst).Nodup)
    (hfree : ∀ e ∈ l, ¬ t.has e.1) :
    ∃ t', registerAll t l = (.ok (), t') ∧ t'.Sorted ∧ ∀ e, e ∈ t' ↔ e ∈ t ∨ e ∈ l := by
  induction l generalizing t with
  | nil => exact ⟨t, rfl, ht, by simp⟩
  | cons e l ih =>
    obtain ⟨hhead, htail⟩ := List.nodup_cons.1 hdistinct
    have hnew : ¬ t.has e.1 := hfree e List.mem_cons_self
    have hrest : ∀ d ∈ l, ¬ (t.insert e.1 e.2).has d.1 := by
      intro d hd
      have hne : e.1 ≠ d.1 := fun heq => hhead (heq ▸ List.mem_map_of_mem hd)
      have hfreed := hfree d (List.mem_cons_of_mem _ hd)
      simpa [Keyed.has, hne] using hfreed
    obtain ⟨t', hall, hsorted, hmem⟩ := ih (ht.insert e.1 e.2) htail hrest
    refine ⟨t', ?_, hsorted, ?_⟩
    · rw [registerAll, if_neg hnew]
      exact hall
    · intro d
      rw [hmem, Keyed.mem_insert_iff ht hnew, List.mem_cons, or_assoc]

/-- The error of a plugin whose key is taken. -/
def takenError (key : String) : Error :=
  .config ("plugin " ++ key ++ " failed: already registered")

lemma registerAll_taken {e : String × Plugin} (htaken : t.has e.1)
    (l : List (String × Plugin)) :
    registerAll t (e :: l) = (.error (takenError e.1), t) := by
  rw [registerAll, if_pos htaken]
  rfl

/-! ### The first load -/

/-- A key that a further plugin and a built-in one are both registered under. -/
def Collides (extra : Keyed Plugin) (key : String) : Prop :=
  extra.has key ∧ builtinPlugins.has key

/-- The least such key. -/
def FirstCollision (extra : Keyed Plugin) (key : String) : Prop :=
  Collides extra key ∧ ∀ other, Collides extra other → key ≤ other

/-- A registry has the built-in plugins and, of the further ones, those with the keys given. -/
structure Holds (r : PluginRegistry) (extra : Keyed Plugin) (keys : String → Prop) : Prop where
  sorted : r.plugins.Sorted
  get?_iff : ∀ key plugin, r.plugins.get? key = some plugin ↔
    builtinPlugins.get? key = some plugin ∨ keys key ∧ extra.get? key = some plugin

lemma sorted_builtinPlugins : builtinPlugins.Sorted :=
  Keyed.sorted_ofList _

/-- Further plugins up to the first collision are registered behind the built-in ones. -/
lemma registerAll_builtin {front : Keyed Plugin} (hfront : front.Sorted)
    (hfree : ∀ e ∈ front, ¬ builtinPlugins.has e.1) :
    ∃ t, registerAll [] (builtinPlugins ++ front) = (.ok (), t) ∧ t.Sorted ∧
      ∀ e, e ∈ t ↔ e ∈ builtinPlugins ∨ e ∈ front := by
  have hdistinct : ((builtinPlugins ++ front).map Prod.fst).Nodup := by
    rw [List.map_append]
    refine List.Nodup.append sorted_builtinPlugins.nodup_keys hfront.nodup_keys ?_
    intro key hbuiltin hkey
    obtain ⟨e, he, rfl⟩ := List.mem_map.1 hkey
    exact hfree e he (Keyed.mem_keys_iff.1 hbuiltin)
  obtain ⟨t, hall, hsorted, hmem⟩ :=
    registerAll_free List.Pairwise.nil hdistinct fun e _ => by simp [Keyed.has, Keyed.get?]
  exact ⟨t, hall, hsorted, by simpa using hmem⟩

lemma load_new (extra : Keyed Plugin) :
    load {} extra = ((registerAll [] (builtinPlugins ++ extra)).1.map fun _ => true,
      { loaded := true, plugins := (registerAll [] (builtinPlugins ++ extra)).2 }) :=
  rfl

lemma load_loaded (hloaded : r.loaded) (extra : Keyed Plugin) :
    r.load extra = (.ok false, r) := by
  rw [load, if_pos hloaded]

/-- Without a collision everything is registered. -/
lemma load_of_free (hsorted : extra.Sorted) (hfree : ∀ key, ¬ Collides extra key) :
    (load {} extra).1 = .ok true ∧ (load {} extra).2.Holds extra fun _ => True := by
  obtain ⟨t, hall, ht, hmem⟩ := registerAll_builtin hsorted fun e he hbuiltin =>
    hfree e.1 ⟨Keyed.has_of_mem he, hbuiltin⟩
  rw [load_new, hall]
  refine ⟨rfl, ht, ?_⟩
  intro key plugin
  rw [← ht.mem_iff, hmem, sorted_builtinPlugins.mem_iff, hsorted.mem_iff, true_and]

/-- Registration ends at the first collision, and what was registered stays. -/
lemma load_of_collision (hsorted : extra.Sorted) {front back : Keyed Plugin}
    {e : String × Plugin} (hextra : extra = front ++ e :: back)
    (hfree : ∀ d ∈ front, ¬ builtinPlugins.has d.1) (htaken : builtinPlugins.has e.1) :
    (load {} extra).1 = .error (takenError e.1) ∧ (load {} extra).2.Holds extra (· < e.1) := by
  subst hextra
  obtain ⟨t, hall, ht, hmem⟩ := registerAll_builtin (List.pairwise_append.1 hsorted).1 hfree
  have hhas : t.has e.1 := by
    obtain ⟨plugin, hplugin⟩ := Keyed.has_iff.1 htaken
    have hold : (e.1, plugin) ∈ t :=
      (hmem _).2 (.inl (sorted_builtinPlugins.mem_iff.2 hplugin))
    exact Keyed.has_of_mem hold
  rw [load_new, ← List.append_assoc, registerAll_append hall, registerAll_taken hhas]
  refine ⟨rfl, ht, ?_⟩
  intro key plugin
  rw [← ht.mem_iff, hmem, sorted_builtinPlugins.mem_iff, hsorted.mem_front_iff, hsorted.mem_iff]

lemma firstCollision_of_split (hsorted : extra.Sorted) {front back : Keyed Plugin}
    {e : String × Plugin} (hextra : extra = front ++ e :: back)
    (hfree : ∀ d ∈ front, ¬ builtinPlugins.has d.1) (htaken : builtinPlugins.has e.1) :
    FirstCollision extra e.1 := by
  subst hextra
  have hmem : e ∈ front ++ e :: back := by simp
  refine ⟨⟨Keyed.has_of_mem hmem, htaken⟩, ?_⟩
  rintro other ⟨hextra, hbuiltin⟩ hlt
  obtain ⟨plugin, hplugin⟩ := Keyed.has_iff.1 hextra
  have hfront := hsorted.mem_front_iff.2 ⟨hlt, hsorted.mem_iff.2 hplugin⟩
  exact hfree _ hfront hbuiltin

/-- Either no key collides or one is the first to do so, and the first load says which. -/
lemma load_cases (hsorted : extra.Sorted) :
    ((∀ key, ¬ Collides extra key) ∧ (load {} extra).1 = .ok true ∧
        (load {} extra).2.Holds extra fun _ => True) ∨
      ∃ key, FirstCollision extra key ∧ (load {} extra).1 = .error (takenError key) ∧
        (load {} extra).2.Holds extra (· < key) := by
  cases hfirst : extra.find? fun e => builtinPlugins.has e.1 with
  | none =>
    left
    have hfree : ∀ key, ¬ Collides extra key := by
      rintro key ⟨hextra, hbuiltin⟩
      obtain ⟨plugin, hplugin⟩ := Keyed.has_iff.1 hextra
      exact List.find?_eq_none.1 hfirst _ (hsorted.mem_iff.2 hplugin) hbuiltin
    exact ⟨hfree, load_of_free hsorted hfree⟩
  | some e =>
    right
    obtain ⟨htaken, front, back, hextra, hfront⟩ := List.find?_eq_some_iff_append.1 hfirst
    have hfree : ∀ d ∈ front, ¬ builtinPlugins.has d.1 := by simpa using hfront
    exact ⟨e.1, firstCollision_of_split hsorted hextra hfree htaken,
      load_of_collision hsorted hextra hfree htaken⟩

/-! ### Loads one after the other -/

/-- Loads in turn: what each of them answers, and the registry behind them.  A load has the registry
for itself, so that loads of several callers come in turn as well, in whatever order. -/
def loadAll (r : PluginRegistry) : List (Keyed Plugin) → List (Except Error Bool) × PluginRegistry
  | [] => ([], r)
  | extra :: later =>
    ((r.load extra).1 :: ((r.load extra).2.loadAll later).1, ((r.load extra).2.loadAll later).2)

/-- Whatever is loaded into a registry that was loaded changes nothing. -/
lemma loadAll_loaded (hloaded : r.loaded) (later : List (Keyed Plugin)) :
    r.loadAll later = (later.map fun _ => .ok false, r) := by
  induction later with
  | nil => rfl
  | cons extra later ih => rw [loadAll, load_loaded hloaded, ih, List.map_cons]

/-- **A registry is filled once, and built-in plugins are never replaced.**  Of any loads of a new
registry the first settles what it holds, and all others answer that they did nothing, whatever they
bring and whatever the first answered.  The first succeeds just when no key of its plugins is
built-in, and then the registry holds them all; otherwise it names the least such key and the
registry holds those before it.  Every built-in plugin is there under its key in either case. -/
theorem registered_once (hsorted : extra.Sorted) :
    ∃ answer r,
      (∀ later, loadAll {} (extra :: later) = (answer :: later.map fun _ => .ok false, r)) ∧
      (∀ key plugin, builtinPlugins.get? key = some plugin → r.plugins.get? key = some plugin) ∧
      (((∀ key, ¬ Collides extra key) ∧ answer = .ok true ∧ r.Holds extra fun _ => True) ∨
        ∃ key, FirstCollision extra key ∧
          answer = .error (.config ("plugin " ++ key ++ " failed: already registered")) ∧
          r.Holds extra (· < key)) := by
  refine ⟨(load {} extra).1, (load {} extra).2, ?_, ?_, load_cases hsorted⟩
  · intro later
    have hloaded : (load {} extra).2.loaded := by rw [load_new]
    rw [loadAll, loadAll_loaded hloaded]
  · intro key plugin hbuiltin
    rcases load_cases hsorted with ⟨-, -, hholds⟩ | ⟨first, -, -, hholds⟩
    · exact (hholds.get?_iff key plugin).2 (.inl hbuiltin)
    · exact (hholds.get?_iff key plugin).2 (.inl hbuiltin)

/-- Plugins of an application, of which the second has the key of a built-in one. -/
def inventory : Keyed Plugin :=
  [("agent_inventory", ⟨"inventory", .agentProvider⟩), ("watcher_exec", ⟨"sandbox", .watcher⟩),
    ("watcher_usb", ⟨"usb", .watcher⟩)]

/-- What comes before the collision is registered, and what comes behind it never is. -/
theorem registered_once_inventory :
    inventory.Sorted ∧ ∃ r,
      loadAll {} [inventory, [("watcher_usb", ⟨"usb", .watcher⟩)], []]
        = ([.error (.config "plugin watcher_exec failed: already registered"),
          .ok false, .ok false], r) ∧
      r.plugins.get? "agent_inventory" = some ⟨"inventory", .agentProvider⟩ ∧
      r.plugins.get? "watcher_exec" = some ⟨"exec", .watcher⟩ ∧
      r.plugins.get? "watcher_usb" = none := by
  have hsorted : inventory.Sorted := by
    show List.Pairwise (fun a b => a.1 < b.1) inventory
    decide
  have hcollides : Collides inventory "watcher_exec" := by
    constructor <;> decide +kernel
  obtain ⟨answer, r, hall, hbuiltin, ⟨hfree, -⟩ | ⟨key, hfirst, rfl, hholds⟩⟩ :=
    registered_once hsorted
  · exact absurd hcollides (hfree _)
  · have hkey : key = "watcher_exec" := by
      obtain ⟨plugin, hplugin⟩ := Keyed.has_iff.1 hfirst.1.1
      have hmem := hsorted.mem_iff.2 hplugin
      have hnot : ¬ builtinPlugins.has "agent_inventory" := by decide +kernel
      have hlate : ¬ "watcher_usb" ≤ "watcher_exec" := by decide
      simp only [inventory, List.mem_cons, Prod.mk.injEq, List.not_mem_nil, or_false] at hmem
      rcases hmem with ⟨rfl, -⟩ | ⟨rfl, -⟩ | ⟨rfl, -⟩
      · exact absurd hfirst.1.2 hnot
      · rfl
      · exact absurd (hfirst.2 _ hcollides) hlate
    subst hkey
    refine ⟨hsorted, r, hall _, ?_, hbuiltin _ _ (by decide +kernel), ?_⟩
    · exact (hholds.get?_iff _ _).2 (.inr (by constructor <;> decide +kernel))
    · rw [Option.eq_none_iff_forall_ne_some]
      intro plugin hplugin
      rcases (hholds.get?_iff _ _).1 hplugin with hbuilt | ⟨hlt, -⟩
      · have hnone : builtinPlugins.get? "watcher_usb" = none := by decide +kernel
        rw [hnone] at hbuilt
        contradiction
      · exact absurd hlt (by decide)

end PluginRegistry

end EdgeNode
