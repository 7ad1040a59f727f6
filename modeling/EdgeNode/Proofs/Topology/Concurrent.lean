import EdgeNode.Proofs.Store.Specs
import EdgeNode.Topology.Provision
import Mathlib.Logic.Function.Basic
/-!
# Provisioners side by side

Any number of provisioners make a pass each, over the resources of a specification of their own and
over one store.  A resource is looked up and created in two steps, so another provisioner may
create it in between, and somebody else may publish at any time.

`Scene.Accounted` is what every step keeps: each stream that was not there beforehand is on exactly
one provisioner's list of what it created, with the specification that the stream still has.  The
lists are what the provisioners report in the end.
-/

namespace EdgeNode

namespace Pass

variable {σ : Type} {link : StoreLink σ} {spec : TopologySpec} {world world' : σ} {pass pass' : Pass}

lemma step_ne_wait {wake : Option Nat} : pass.step link spec world ≠ (.wait wake, world') := by
  intro h
  have hwait := congrArg Prod.fst h
  rcases pass with _ | ⟨finished, _ | ⟨r, left⟩⟩ | ⟨finished, r, left⟩ <;>
    simp only [step] at hwait <;> (try split at hwait) <;> contradiction

lemma stepsLeft_pos (spec : TopologySpec) (pass : Pass) : 0 < pass.stepsLeft spec := by
  cases pass <;> exact Nat.succ_pos _

lemma stepsLeft_lt (h : pass.step link spec world = (.next pass', world')) :
    pass'.stepsLeft spec < pass.stepsLeft spec := by
  rcases pass with _ | ⟨finished, _ | ⟨r, left⟩⟩ | ⟨finished, r, left⟩ <;>
    simp only [step] at h
  · split at h
    · obtain ⟨rfl⟩ := Progress.next.inj (congrArg Prod.fst h)
      exact Nat.lt_succ_self _
    · exact absurd (congrArg Prod.fst h) (by simp)
  · exact absurd (congrArg Prod.fst h) (by simp)
  · split at h
    · obtain ⟨rfl⟩ := Progress.next.inj (congrArg Prod.fst h)
      simp only [stepsLeft, List.length_cons]
      omega
    · obtain ⟨rfl⟩ := Progress.next.inj (congrArg Prod.fst h)
      simp only [stepsLeft, List.length_cons]
      omega
    · exact absurd (congrArg Prod.fst h) (by simp)
    · exact absurd (congrArg Prod.fst h) (by simp)
  · split at h
    · obtain ⟨rfl⟩ := Progress.next.inj (congrArg Prod.fst h)
      simp only [stepsLeft]
      omega
    · exact absurd (congrArg Prod.fst h) (by simp)

end Pass

/-- Where somebody stands who makes one pass over the resources of a specification. -/
inductive Provisioner where
  /-- In the pass. -/
  | working (pass : Pass)
  /-- At its end. -/
  | finished (result : Outcome Error EnsuredList)
deriving DecidableEq, Repr

/-- What was done for resources, one after another. -/
abbrev Done := List (Resource × Ensured)

/-- What is reported of it. -/
def Done.report (done : Done) : EnsuredList :=
  done.map fun e => (e.1.name, e.2)

namespace Provisioner

/-- A turn of a provisioner, over a store that accepts connections. -/
def turn (url : String) (spec : TopologySpec) (h : Host) : Provisioner → Provisioner × Host
  | .working pass =>
    match pass.step (StoreLink.toHost url true) spec h with
    | (.next pass, h) => (.working pass, h)
    | (.wait _, h) => (.working pass, h)
    | (.done result, h) => (.finished result, h)
  | .finished result => (.finished result, h)

/-- The number of turns that a provisioner can still use. -/
def turnsLeft (spec : TopologySpec) : Provisioner → Nat
  | .working pass => pass.stepsLeft spec
  | .finished _ => 0

/-- The resources with what a provisioner reports of them, once it succeeded. -/
def reported (resources : List Resource) : Provisioner → Done
  | .finished (.ok report) => resources.zip (report.map Prod.snd)
  | _ => []

/-- A provisioner stands where it must after what it did. -/
inductive Did (resources : List Resource) : Done → Provisioner → Prop
  /-- It did nothing. -/
  | connecting : Did resources [] (.working .connecting)
  /-- It comes to the next resource. -/
  | looking {done : Done} {left : List Resource} (h : resources = done.map Prod.fst ++ left) :
      Did resources done (.working (.looking done.report left))
  /-- It did not find a resource. -/
  | creating {done : Done} {r : Resource} {left : List Resource}
      (h : resources = done.map Prod.fst ++ r :: left) :
      Did resources done (.working (.creating done.report r left))
  /-- It succeeded. -/
  | finished {done : Done} (h : resources = done.map Prod.fst) :
      Did resources done (.finished (.ok done.report))

/-- What a turn does to a store and for the next resource. -/
inductive Effect (s s' : Store) (done : Done) : Done → Prop
  /-- Nothing. -/
  | nothing (hsame : ∀ name, s'.spec? name = s.spec? name) : Effect s s' done done
  /-- The resource is there. -/
  | found {r : Resource} (hheld : s.spec? r.backingName ≠ none)
      (hsame : ∀ name, s'.spec? name = s.spec? name) : Effect s s' done (done ++ [(r, .existed)])
  /-- The resource is created. -/
  | made {r : Resource} (hfree : s.spec? r.backingName = none)
      (hmade : ∀ name, s'.spec? name
        = if r.backingName = name then some r.backingSpec else s.spec? name) :
      Effect s s' done (done ++ [(r, .created)])

variable {url : String} {spec : TopologySpec} {h : Host} {p : Provisioner} {done : Done}
  {resources : List Resource}

lemma turnsLeft_turn (url : String) (spec : TopologySpec) (h : Host) (p : Provisioner) :
    (p.turn url spec h).1.turnsLeft spec ≤ p.turnsLeft spec - 1 := by
  cases p with
  | finished result => exact Nat.le_refl 0
  | working pass =>
    simp only [turn]
    split
    · next hstep => exact Nat.le_sub_one_of_lt (Pass.stepsLeft_lt hstep)
    · next hstep => exact absurd hstep Pass.step_ne_wait
    · exact Nat.zero_le _

/-- A provisioner that has no turns left has finished. -/
lemma exists_finished (hleft : p.turnsLeft spec = 0) : ∃ result, p = .finished result := by
  cases p with
  | working pass => exact absurd hleft (Pass.stepsLeft_pos spec pass).ne'
  | finished result => exact ⟨result, rfl⟩

lemma report_concat (done : Done) (r : Resource) (e : Ensured) :
    Done.report (done ++ [(r, e)]) = done.report ++ [(r.name, e)] := by
  simp [Done.report]

lemma zip_report (done : Done) :
    (done.map Prod.fst).zip (done.report.map Prod.snd) = done := by
  have hsnd : done.report.map Prod.snd = done.map Prod.snd := by
    rw [Done.report, List.map_map]
    rfl
  rw [hsnd]
  exact (List.zip_of_prod rfl rfl).symm

namespace Did

lemma concat {r : Resource} {left : List Resource}
    (h : resources = done.map Prod.fst ++ r :: left) (e : Ensured) :
    Did resources (done ++ [(r, e)])
      (.working (.looking (Done.report (done ++ [(r, e)])) left)) :=
  .looking (by simp [h])

/-- A provisioner worked on a first part of its resources. -/
lemma isPrefix (hdid : Did resources done p) : done.map Prod.fst <+: resources := by
  cases hdid with
  | connecting => exact List.nil_prefix
  | looking h => exact ⟨_, h.symm⟩
  | creating h => exact ⟨_, h.symm⟩
  | finished h => exact ⟨[], by simp [h]⟩

lemma of_finished {result : Outcome Error EnsuredList} (hdid : Did resources done (.finished result)) :
    resources = done.map Prod.fst ∧ result = .ok done.report := by
  cases hdid with
  | finished h => exact ⟨h, rfl⟩

lemma reported_finished (hresources : resources = done.map Prod.fst) :
    reported resources (.finished (.ok done.report)) = done := by
  rw [hresources]
  exact zip_report done

/-- What a provisioner reports is what it did. -/
lemma mem_of_reported (hdid : Did resources done p) {k : Nat} {e : Resource × Ensured}
    (h : (p.reported resources)[k]? = some e) : done[k]? = some e := by
  cases hdid with
  | finished hresources => rwa [reported_finished hresources] at h
  | connecting | looking _ | creating _ => simp [reported] at h

end Did

/-- What a step of a pass comes to after what was done so far, where connections are accepted. -/
inductive Goes (spec : TopologySpec) (s s' : Store) :
    Done → Pass → Done → Progress Pass (Outcome Error EnsuredList) → Prop
  /-- The pass is connected. -/
  | connected (hsame : ∀ name, s'.spec? name = s.spec? name) :
      Goes spec s s' [] .connecting [] (.next (.looking [] spec.resources))
  /-- The resource is there. -/
  | found {done : Done} {r : Resource} {left : List Resource}
      (hleft : spec.resources = done.map Prod.fst ++ r :: left)
      (hheld : s.spec? r.backingName ≠ none) (hsame : ∀ name, s'.spec? name = s.spec? name) :
      Goes spec s s' done (.looking done.report (r :: left)) (done ++ [(r, .existed)])
        (.next (.looking (Done.report (done ++ [(r, .existed)])) left))
  /-- The resource is not there. -/
  | missing {done : Done} {r : Resource} {left : List Resource}
      (hleft : spec.resources = done.map Prod.fst ++ r :: left)
      (hfree : s.spec? r.backingName = none) (hsame : ∀ name, s'.spec? name = s.spec? name) :
      Goes spec s s' done (.looking done.report (r :: left)) done
        (.next (.creating done.report r left))
  /-- The resource is created. -/
  | made {done : Done} {r : Resource} {left : List Resource}
      (hleft : spec.resources = done.map Prod.fst ++ r :: left)
      (hfree : s.spec? r.backingName = none)
      (hmade : ∀ name, s'.spec? name
        = if r.backingName = name then some r.backingSpec else s.spec? name) :
      Goes spec s s' done (.creating done.report r left) (done ++ [(r, .created)])
        (.next (.looking (Done.report (done ++ [(r, .created)])) left))
  /-- Another provisioner came first. -/
  | overtaken {done : Done} {r : Resource} {left : List Resource}
      (hleft : spec.resources = done.map Prod.fst ++ r :: left)
      (hheld : s.spec? r.backingName ≠ none) (hsame : ∀ name, s'.spec? name = s.spec? name) :
      Goes spec s s' done (.creating done.report r left) (done ++ [(r, .existed)])
        (.next (.looking (Done.report (done ++ [(r, .existed)])) left))
  /-- The pass is over. -/
  | through {done : Done} (hresources : spec.resources = done.map Prod.fst)
      (hsame : ∀ name, s'.spec? name = s.spec? name) :
      Goes spec s s' done (.looking done.report []) done (.done (.ok done.report))

/-- What a step comes to, where the age limits of the streams can be applied. -/
theorem step_goes {pass : Pass} (hs : (h.store url).streams.Sorted)
    (hages : ∀ name held, (h.store url).spec? name = some held → held.AgeFits h.wallClock)
    (hdid : Did spec.resources done (.working pass)) :
    ((pass.step (.toHost url true) spec h).2.store url).streams.Sorted ∧
      ∃ done', Goes spec (h.store url) ((pass.step (.toHost url true) spec h).2.store url) done pass
        done' (pass.step (.toHost url true) spec h).1 := by
  cases hdid with
  | connecting => exact ⟨hs, _, .connected fun _ => rfl⟩
  | @looking _ left hleft =>
    cases left with
    | nil => exact ⟨hs, _, .through (by simpa using hleft) fun _ => rfl⟩
    | cons r left =>
      have hstore : (((StoreLink.toHost url true).lookup r h).2.store url)
          = ((h.store url).lookup h.wallClock r).2 := Host.store_withStore_self h url _
      have hanswer : ((StoreLink.toHost url true).lookup r h).1
          = ((h.store url).lookup h.wallClock r).1 := rfl
      have hsorted := Store.sorted_lookup hs h.wallClock r
      have hsame := Store.spec?_lookup hs h.wallClock r
      rw [← hstore] at hsorted hsame
      cases hheld : (h.store url).spec? r.backingName with
      | none =>
        have hmissing := Store.afterLookup_of_eq_none hheld h.wallClock
        simp only [Pass.step, hanswer, hmissing]
        exact ⟨hsorted, _, .missing hleft hheld hsame⟩
      | some held =>
        have hfound := Store.afterLookup_of_eq_some hheld (hages _ held hheld)
        simp only [Pass.step, hanswer, hfound, ← report_concat]
        exact ⟨hsorted, _, .found hleft (by simp [hheld]) hsame⟩
  | @creating _ r left hleft =>
    have hstore : (((StoreLink.toHost url true).create r h).2.store url)
        = ((h.store url).create r).2 := Host.store_withStore_self h url _
    have hanswer : ((StoreLink.toHost url true).create r h).1 = ((h.store url).create r).1 := rfl
    have hsorted := Store.sorted_create hs r
    have hspec := Store.spec?_create (h.store url) r
    rw [← hstore] at hsorted hspec
    cases hheld : (h.store url).spec? r.backingName with
    | none =>
      have hcreated := Store.afterCreate_of_eq_none hheld
      simp only [Pass.step, hanswer, hcreated, ← report_concat]
      refine ⟨hsorted, _, .made hleft hheld fun name => ?_⟩
      rw [hspec]
      split
      · next hname => rw [← hname, hheld]; rfl
      · rfl
    | some held =>
      have hexisted := Store.afterCreate_of_eq_some hheld
      simp only [Pass.step, hanswer, hexisted, ← report_concat]
      refine ⟨hsorted, _, .overtaken hleft (by simp [hheld]) fun name => ?_⟩
      rw [hspec]
      split
      · next hname => rw [← hname, hheld]; rfl
      · rfl

/-- **A turn finds a resource, creates it or is on its way to it**, where the age limits of the
streams can be applied. -/
theorem turn_effect (hs : (h.store url).streams.Sorted)
    (hages : ∀ name held, (h.store url).spec? name = some held → held.AgeFits h.wallClock)
    (hdid : Did spec.resources done p) :
    ∃ done', Did spec.resources done' (p.turn url spec h).1 ∧
      ((p.turn url spec h).2.store url).streams.Sorted ∧
      Effect (h.store url) ((p.turn url spec h).2.store url) done done' := by
  cases p with
  | finished result => exact ⟨done, hdid, hs, .nothing fun _ => rfl⟩
  | working pass =>
    obtain ⟨hsorted, done', hgoes⟩ := step_goes hs hages hdid
    simp only [turn]
    generalize pass.step (.toHost url true) spec h = after at hsorted hgoes ⊢
    obtain ⟨progress, h'⟩ := after
    cases hgoes with
    | connected hsame => exact ⟨[], .looking rfl, hsorted, .nothing hsame⟩
    | missing hleft _ hsame => exact ⟨_, .creating hleft, hsorted, .nothing hsame⟩
    | through hresources hsame => exact ⟨_, .finished hresources, hsorted, .nothing hsame⟩
    | made hleft hfree hmade => exact ⟨_, .concat hleft .created, hsorted, .made hfree hmade⟩
    | found hleft hheld hsame | overtaken hleft hheld hsame =>
      exact ⟨_, .concat hleft .existed, hsorted, .found hheld hsame⟩

/-- A stream that is there keeps what it was asked to be. -/
lemma Effect.kept {s s' : Store} {done' : Done} (he : Effect s s' done done') {name : String}
    {held : StreamSpec} (h : s.spec? name = some held) : s'.spec? name = some held := by
  cases he with
  | nothing hsame => rw [hsame, h]
  | found _ hsame => rw [hsame, h]
  | made hfree hmade =>
    rw [hmade, if_neg, h]
    intro hname
    rw [← hname, hfree] at h
    contradiction

end Provisioner

/-! ### Several provisioners -/

/-- What happens at an instant. -/
inductive Occurrence (ι : Type) where
  /-- A provisioner has a turn. -/
  | turn (i : ι)
  /-- Somebody else asks the store for something. -/
  | request (r : Store.Request)
deriving DecidableEq, Repr

/-- Provisioners and the host over whose stores they work. -/
structure Scene (ι : Type) where
  /-- The host. -/
  host : Host
  /-- The provisioners. -/
  crew : ι → Provisioner

namespace Scene

open Provisioner (Did Effect)

variable {ι : Type} [DecidableEq ι]

/-- Everybody is about to begin. -/
def start (h : Host) : Scene ι where
  host := h
  crew _ := .working .connecting

/-- The host of a scene at an instant. -/
def hostAt (s : Scene ι) (now : Nat) : Host :=
  { s.host with wallClock := now }

/-- What becomes of a scene when something happens at an instant. -/
def happen (url : String) (specs : ι → TopologySpec) (s : Scene ι) (e : Nat × Occurrence ι) :
    Scene ι :=
  match e.2 with
  | .turn i =>
    let after := (s.crew i).turn url (specs i) (s.hostAt e.1)
    { host := after.2, crew := Function.update s.crew i after.1 }
  | .request r =>
    { s with host := ((s.hostAt e.1).withStore url fun store => ((), store.serve e.1 r)).2 }

/-- What becomes of a scene in the course of a schedule. -/
def play (url : String) (specs : ι → TopologySpec) (s : Scene ι)
    (schedule : List (Nat × Occurrence ι)) : Scene ι :=
  schedule.foldl (happen url specs) s

/-- The age limits of the streams that are there, and of those that may be created, can be applied
at an instant. -/
structure Fits (s : Store) (specs : ι → TopologySpec) (now : Nat) : Prop where
  held : ∀ name spec, s.spec? name = some spec → spec.AgeFits now
  asked : ∀ i, ∀ r ∈ (specs i).resources, r.backingSpec.AgeFits now

/-- The entry at a place among what was done says that a resource was created. -/
def Made (done : ι → Done) (place : ι × Nat) (r : Resource) : Prop :=
  (done place.1)[place.2]? = some (r, .created)

/-- What was done so far accounts for the streams that were not there before. -/
structure Accounted (before s : Store) (done : ι → Done) : Prop where
  /-- A resource that was worked on is there. -/
  held : ∀ i, ∀ e ∈ done i, s.spec? e.1.backingName ≠ none
  kept : ∀ name spec, before.spec? name = some spec → s.spec? name = some spec
  /-- What was created was not there before, and is still what it was asked to be. -/
  created : ∀ place r, Made done place r →
    before.spec? r.backingName = none ∧ s.spec? r.backingName = some r.backingSpec
  once : ∀ place r place' r', Made done place r → Made done place' r' →
    r.backingName = r'.backingName → place = place'
  /-- What was not there before was created. -/
  owned : ∀ name spec, s.spec? name = some spec → before.spec? name = some spec ∨
    ∃ place r, Made done place r ∧ r.backingName = name ∧ r.backingSpec = spec

omit [DecidableEq ι] in
lemma Accounted.start (before : Store) : Accounted before before fun _ : ι => [] where
  held i e he := absurd he List.not_mem_nil
  kept name spec h := h
  created place r h := by simp [Made] at h
  once place r place' r' h := by simp [Made] at h
  owned name spec h := .inl h

/-- The lists after an entry was added to one of them. -/
lemma getElem?_update_concat {done : ι → Done} {i : ι} {x y : Resource × Ensured}
    (place : ι × Nat) :
    (Function.update done i (done i ++ [x]) place.1)[place.2]? = some y ↔
      (done place.1)[place.2]? = some y ∨ (place = (i, (done i).length) ∧ y = x) := by
  obtain ⟨j, k⟩ := place
  by_cases hij : j = i
  · subst hij
    rw [Function.update_self, List.getElem?_append]
    split
    · next hlt => simp [Nat.ne_of_lt hlt]
    · next hle =>
      have hnone : (done j)[k]? = none := List.getElem?_eq_none (Nat.not_lt.1 hle)
      rw [List.getElem?_singleton, hnone]
      have hsub : k - (done j).length = 0 ↔ k = (done j).length := by omega
      split
      · next hzero => simp [hsub.1 hzero, eq_comm]
      · next hzero =>
        have hne : k ≠ (done j).length := fun h => hzero (hsub.2 h)
        simp [hne]
  · simp [hij]

namespace Accounted

variable {before s s' : Store} {done : ι → Done} {i : ι} {r : Resource}

omit [DecidableEq ι] in
lemma congr (h : Accounted before s done) (hsame : ∀ name, s'.spec? name = s.spec? name) :
    Accounted before s' done := by
  obtain ⟨hheld, hkept, hcreated, honce, howned⟩ := h
  simp only [← hsame] at hheld hkept hcreated howned
  exact ⟨hheld, hkept, hcreated, honce, howned⟩

lemma mem_update_concat {x e : Resource × Ensured} {j : ι}
    (he : e ∈ Function.update done i (done i ++ [x]) j) : e ∈ done j ∨ e = x := by
  obtain ⟨k, hk⟩ := List.mem_iff_getElem?.1 he
  rcases (getElem?_update_concat (j, k)).1 hk with hk | ⟨-, rfl⟩
  · exact .inl (List.mem_iff_getElem?.2 ⟨k, hk⟩)
  · exact .inr rfl

lemma found (h : Accounted before s done) (hheld : s.spec? r.backingName ≠ none) :
    Accounted before s (Function.update done i (done i ++ [(r, .existed)])) := by
  -- an entry for what was created is an old one
  have hmade : ∀ {place r'}, Made (Function.update done i (done i ++ [(r, .existed)])) place r' ↔
      Made done place r' := by
    intro place r'
    rw [Made, getElem?_update_concat, or_iff_left]
    · rfl
    · rintro ⟨-, hentry⟩
      exact absurd (congrArg Prod.snd hentry) (by simp)
  refine ⟨fun j e he => ?_, h.kept, fun place r' hplace => h.created place r' (hmade.1 hplace),
    fun place r' place' r'' hplace hplace' =>
      h.once place r' place' r'' (hmade.1 hplace) (hmade.1 hplace'), ?_⟩
  · rcases mem_update_concat he with he | rfl
    · exact h.held j e he
    · exact hheld
  · simpa only [hmade] using h.owned

lemma made (h : Accounted before s done) (hfree : s.spec? r.backingName = none)
    (hspec : ∀ name, s'.spec? name
      = if r.backingName = name then some r.backingSpec else s.spec? name) :
    Accounted before s' (Function.update done i (done i ++ [(r, .created)])) := by
  have hmade : ∀ {place r'}, Made (Function.update done i (done i ++ [(r, .created)])) place r' ↔
      Made done place r' ∨ (place = (i, (done i).length) ∧ r' = r) := by
    intro place r'
    have hentry : (r', Ensured.created) = (r, Ensured.created) ↔ r' = r := by simp
    rw [Made, getElem?_update_concat, hentry]
    rfl
  have heffect : Effect s s' [] ([] ++ [(r, .created)]) := .made hfree hspec
  have hkept : ∀ {name spec}, s.spec? name = some spec → s'.spec? name = some spec := heffect.kept
  have hnew : s'.spec? r.backingName = some r.backingSpec := by rw [hspec, if_pos rfl]
  -- what was created before has another name
  have hother : ∀ {place r'}, Made done place r' → r'.backingName ≠ r.backingName := by
    intro place r' hplace hname
    have hheld := (h.created place r' hplace).2
    rw [hname, hfree] at hheld
    contradiction
  constructor
  case held =>
    intro j e he
    rcases mem_update_concat he with he | rfl
    · obtain ⟨spec, hheld⟩ := Option.ne_none_iff_exists'.1 (h.held j e he)
      rw [hkept hheld]
      exact Option.some_ne_none spec
    · rw [hnew]
      exact Option.some_ne_none _
  case kept => exact fun name spec hheld => hkept (h.kept name spec hheld)
  case created =>
    intro place r' hplace
    rcases hmade.1 hplace with hplace | ⟨-, rfl⟩
    · obtain ⟨hbefore, hheld⟩ := h.created place r' hplace
      exact ⟨hbefore, hkept hheld⟩
    · refine ⟨?_, hnew⟩
      by_contra hbefore
      obtain ⟨spec, hheld⟩ := Option.ne_none_iff_exists'.1 hbefore
      rw [h.kept _ _ hheld] at hfree
      contradiction
  case once =>
    intro place r' place' r'' hplace hplace' hname
    rcases hmade.1 hplace with hold | ⟨rfl, rfl⟩ <;>
      rcases hmade.1 hplace' with hold' | ⟨rfl, rfl⟩
    · exact h.once place r' place' r'' hold hold' hname
    · exact absurd hname (hother hold)
    · exact absurd hname.symm (hother hold')
    · rfl
  case owned =>
    intro name spec hheld
    rw [hspec] at hheld
    split at hheld
    · next hname => exact .inr ⟨_, r, hmade.2 (.inr ⟨rfl, rfl⟩), hname, Option.some.inj hheld⟩
    · refine (h.owned name spec hheld).imp_right ?_
      rintro ⟨place, r', hplace, hrest⟩
      exact ⟨place, r', hmade.2 (.inl hplace), hrest⟩

omit [DecidableEq ι] in
/-- A stream that is there was there before or was asked for, so its age limit can be applied. -/
lemma ageFits (h : Accounted before s done) {specs : ι → TopologySpec} {now : Nat}
    (hfirst : ∀ i, (done i).map Prod.fst <+: (specs i).resources) (hfits : Fits before specs now)
    {name : String} {held : StreamSpec} (hheld : s.spec? name = some held) : held.AgeFits now := by
  rcases h.owned name held hheld with hbefore | ⟨⟨i, k⟩, r, hk, -, rfl⟩
  · exact hfits.held name held hbefore
  · have hdone : r ∈ (done i).map Prod.fst :=
      List.mem_map.2 ⟨_, List.mem_iff_getElem?.2 ⟨k, hk⟩, rfl⟩
    exact hfits.asked i r ((hfirst i).mem hdone)

/-- What a turn does is accounted for. -/
lemma effect (h : Accounted before s done) {done' : Done} (he : Effect s s' (done i) done') :
    Accounted before s' (Function.update done i done') := by
  cases he with
  | nothing hsame =>
    rw [Function.update_eq_self]
    exact h.congr hsame
  | found hheld hsame => exact (h.found hheld).congr hsame
  | made hfree hspec => exact h.made hfree hspec

end Accounted

/-- What holds of a scene at any time. -/
structure InOrder (url : String) (specs : ι → TopologySpec) (before : Store) (s : Scene ι)
    (done : ι → Done) : Prop where
  sorted : (s.host.store url).streams.Sorted
  did : ∀ i, Did (specs i).resources (done i) (s.crew i)
  accounted : Accounted before (s.host.store url) done

variable {url : String} {specs : ι → TopologySpec} {before : Store} {s : Scene ι}
  {done : ι → Done}

omit [DecidableEq ι] in
lemma InOrder.start (specs : ι → TopologySpec) {h : Host}
    (hsorted : (h.store url).streams.Sorted) :
    InOrder url specs (h.store url) (start h) fun _ => [] :=
  ⟨hsorted, fun _ => .connecting, .start _⟩

omit [DecidableEq ι] in
lemma InOrder.ageFits (h : InOrder url specs before s done) {now : Nat}
    (hfits : Fits before specs now) {name : String} {held : StreamSpec}
    (hheld : (s.host.store url).spec? name = some held) : held.AgeFits now :=
  h.accounted.ageFits (fun i => (h.did i).isPrefix) hfits hheld

/-- Whatever happens, a scene stays in order, and the streams that are there stay. -/
lemma InOrder.happen (h : InOrder url specs before s done) {e : Nat × Occurrence ι}
    (hothers : ∀ r, e.2 = .request r → r.spec? = none) (hfits : Fits before specs e.1) :
    (∃ done', InOrder url specs before (s.happen url specs e) done') ∧
      ∀ name held, (s.host.store url).spec? name = some held →
        ((s.happen url specs e).host.store url).spec? name = some held := by
  obtain ⟨now, occurrence⟩ := e
  cases occurrence with
  | turn i =>
    have hsorted : ((s.hostAt now).store url).streams.Sorted := h.sorted
    obtain ⟨done', hdid, hsorted', heffect⟩ :=
      Provisioner.turn_effect hsorted (fun _ _ hheld => h.ageFits hfits hheld) (h.did i)
    refine ⟨⟨Function.update done i done', hsorted', fun j => ?_, h.accounted.effect heffect⟩,
      fun name held hheld => heffect.kept hheld⟩
    by_cases hij : j = i
    · subst hij
      simpa [Scene.happen] using hdid
    · simpa [Scene.happen, hij] using h.did j
  | request r =>
    have hstore : (s.happen url specs (now, .request r)).host.store url
        = (s.host.store url).serve now r :=
      Host.store_withStore_self (s.hostAt now) url fun store => ((), store.serve now r)
    have hsame := Store.spec?_serve h.sorted (hothers r rfl) now
    have hsorted := Store.sorted_serve h.sorted now r
    rw [← hstore] at hsame hsorted
    exact ⟨⟨done, hsorted, h.did, h.accounted.congr hsame⟩, fun name held hheld => by
      rw [hsame, hheld]⟩

/-- And so it does in the course of a schedule. -/
theorem InOrder.play (h : InOrder url specs before s done) {schedule : List (Nat × Occurrence ι)}
    (hothers : ∀ e ∈ schedule, ∀ r, e.2 = .request r → r.spec? = none)
    (hfits : ∀ e ∈ schedule, Fits before specs e.1) :
    (∃ done', InOrder url specs before (s.play url specs schedule) done') ∧
      ∀ name held, (s.host.store url).spec? name = some held →
        ((s.play url specs schedule).host.store url).spec? name = some held := by
  induction schedule generalizing s done with
  | nil => exact ⟨⟨done, h⟩, fun _ _ hheld => hheld⟩
  | cons e schedule ih =>
    obtain ⟨hothers, hothers'⟩ := List.forall_mem_cons.1 hothers
    obtain ⟨hfits, hfits'⟩ := List.forall_mem_cons.1 hfits
    obtain ⟨⟨done', hnext⟩, hkept⟩ := h.happen hothers hfits
    obtain ⟨hlast, hkept'⟩ := ih hnext hothers' hfits'
    exact ⟨hlast, fun name held hheld => hkept' name held (hkept name held hheld)⟩

lemma turnsLeft_play (url : String) (specs : ι → TopologySpec) (s : Scene ι)
    (schedule : List (Nat × Occurrence ι)) (i : ι) :
    ((s.play url specs schedule).crew i).turnsLeft (specs i)
      ≤ (s.crew i).turnsLeft (specs i) - schedule.countP fun e => e.2 = .turn i := by
  induction schedule generalizing s with
  | nil => exact Nat.le_refl _
  | cons e schedule ih =>
    obtain ⟨now, occurrence⟩ := e
    have hrest := ih (s.happen url specs (now, occurrence))
    rw [List.countP_cons]
    cases occurrence with
    | request r => simpa [play, Scene.happen] using hrest
    | turn j =>
      by_cases hij : i = j
      · subst hij
        have hturn := Provisioner.turnsLeft_turn url (specs i) (s.hostAt now) (s.crew i)
        simp only [Scene.happen, Function.update_self] at hrest
        simp only [decide_true, if_true]
        exact hrest.trans (by omega)
      · have hother : Occurrence.turn j ≠ .turn i := fun h => hij (Occurrence.turn.inj h).symm
        simpa [play, Scene.happen, hij, hother] using hrest

/-- What the provisioners report that have succeeded. -/
def reports (specs : ι → TopologySpec) (s : Scene ι) (i : ι) : Done :=
  (s.crew i).reported (specs i).resources

/-- Everybody has finished. -/
def Over (s : Scene ι) : Prop :=
  ∀ i, ∃ result, s.crew i = .finished result

namespace InOrder

variable {i : ι} {result : Outcome Error EnsuredList}

omit [DecidableEq ι]

/-- A provisioner that has finished worked on all its resources, and reports what it did. -/
lemma of_finished (h : InOrder url specs before s done) (hfinished : s.crew i = .finished result) :
    (specs i).resources = (done i).map Prod.fst ∧ result = .ok (done i).report ∧
      s.reports specs i = done i := by
  have hdid := h.did i
  rw [hfinished] at hdid
  obtain ⟨hresources, hresult⟩ := hdid.of_finished
  refine ⟨hresources, hresult, ?_⟩
  rw [reports, hfinished, hresult]
  exact Did.reported_finished hresources

lemma made_of_reports (h : InOrder url specs before s done) {place : ι × Nat} {r : Resource}
    (hplace : Made (s.reports specs) place r) : Made done place r :=
  (h.did place.1).mem_of_reported hplace

lemma held_of_finished (h : InOrder url specs before s done)
    (hfinished : s.crew i = .finished result) {r : Resource} (hr : r ∈ (specs i).resources) :
    (s.host.store url).spec? r.backingName ≠ none := by
  rw [(h.of_finished hfinished).1] at hr
  obtain ⟨e, he, rfl⟩ := List.mem_map.1 hr
  exact h.accounted.held i e he

/-- Once everybody has finished, each stream that was asked for and was not there before was
created by one of them. -/
lemma existsUnique_made (h : InOrder url specs before s done) (hover : s.Over) {r : Resource}
    (hr : r ∈ (specs i).resources) (hfree : before.spec? r.backingName = none) :
    ∃! place, ∃ r', Made (s.reports specs) place r' ∧ r'.backingName = r.backingName := by
  obtain ⟨result, hfinished⟩ := hover i
  obtain ⟨spec, hspec⟩ := Option.ne_none_iff_exists'.1 (h.held_of_finished hfinished hr)
  rcases h.accounted.owned _ _ hspec with hbefore | ⟨place, r', hplace, hname, -⟩
  · rw [hfree] at hbefore
    contradiction
  · obtain ⟨result', hfinished'⟩ := hover place.1
    refine ⟨place, ⟨r', ?_, hname⟩, ?_⟩
    · rw [Made, (h.of_finished hfinished').2.2]
      exact hplace
    · rintro place' ⟨r'', hplace', hname'⟩
      exact h.accounted.once _ _ _ _ (h.made_of_reports hplace') hplace (hname'.trans hname.symm)

/-- Where everything that is asked for was there before, all of it is found and nothing created. -/
lemma all_existed (h : InOrder url specs before s done)
    (hbefore : ∀ i, ∀ r ∈ (specs i).resources, before.spec? r.backingName ≠ none) :
    (∀ i result, s.crew i = .finished result →
      result = .ok ((specs i).resources.map fun r => (r.name, .existed))) ∧
    ∀ name, (s.host.store url).spec? name = before.spec? name := by
  have hnone : ∀ place r, ¬ Made done place r := by
    intro place r hplace
    have hdone : r ∈ (done place.1).map Prod.fst :=
      List.mem_map.2 ⟨_, List.mem_iff_getElem?.2 ⟨_, hplace⟩, rfl⟩
    exact hbefore place.1 r ((h.did place.1).isPrefix.mem hdone)
      (h.accounted.created place r hplace).1
  refine ⟨fun i result hfinished => ?_, fun name => ?_⟩
  · obtain ⟨hresources, rfl, -⟩ := h.of_finished hfinished
    rw [hresources, Done.report, List.map_map]
    refine congrArg Outcome.ok (List.map_congr_left fun e he => ?_)
    obtain ⟨k, hk⟩ := List.mem_iff_getElem?.1 he
    obtain ⟨r, _ | _⟩ := e
    · rfl
    · exact absurd hk (hnone (i, k) r)
  · cases hheld : before.spec? name with
    | some held => exact h.accounted.kept name held hheld
    | none =>
      by_contra hnew
      obtain ⟨held, hheld'⟩ := Option.ne_none_iff_exists'.1 hnew
      rcases h.accounted.owned name held hheld' with hold | ⟨place, r, hplace, -⟩
      · rw [hheld] at hold
        contradiction
      · exact hnone place r hplace

end InOrder

lemma play_append (s : Scene ι) (past future : List (Nat × Occurrence ι)) :
    s.play url specs (past ++ future) = (s.play url specs past).play url specs future :=
  List.foldl_append

/-- **Each stream is created by one provisioner.**  However the turns of the provisioners and the
requests of others follow one another, a provisioner that has its turns finishes, and then it
succeeded and reports its resources in order.  A stream that was there is reported by nobody to be
created, and one that was not by exactly one.  Streams keep what they were asked to be, and whoever
works for one of the specifications again finds everything there and creates nothing. -/
theorem created_once {h : Host} {schedule : List (Nat × Occurrence ι)}
    (hsorted : (h.store url).streams.Sorted)
    (hothers : ∀ e ∈ schedule, ∀ r, e.2 = .request r → r.spec? = none)
    (hfits : ∀ e ∈ schedule, Fits (h.store url) specs e.1) :
    let s := (start h).play url specs schedule
    (∀ i, 2 * (specs i).resources.length + 2 ≤ (schedule.countP fun e => e.2 = .turn i) →
      ∃ result, s.crew i = .finished result) ∧
    (∀ i result, s.crew i = .finished result →
      ∃ report, result = .ok report ∧ report.map Prod.fst = (specs i).resources.map Resource.name) ∧
    (∀ place r, Made (s.reports specs) place r → (h.store url).spec? r.backingName = none ∧
      (s.host.store url).spec? r.backingName = some r.backingSpec) ∧
    (s.Over → ∀ i, ∀ r ∈ (specs i).resources, (h.store url).spec? r.backingName = none →
      ∃! place, ∃ r', Made (s.reports specs) place r' ∧ r'.backingName = r.backingName) ∧
    (∀ past future, schedule = past ++ future → ∀ name spec,
      (((start h).play url specs past).host.store url).spec? name = some spec →
        (s.host.store url).spec? name = some spec) ∧
    (∀ {κ : Type} [DecidableEq κ] (again : κ → TopologySpec)
      (later : List (Nat × Occurrence κ)),
      (∀ j, ∃ i result, again j = specs i ∧ s.crew i = .finished result) →
      (∀ e ∈ later, ∀ r, e.2 = .request r → r.spec? = none) →
      (∀ e ∈ later, Fits (s.host.store url) again e.1) →
      let s' := (start s.host).play url again later
      (∀ j result, s'.crew j = .finished result →
        result = .ok ((again j).resources.map fun r => (r.name, .existed))) ∧
      ∀ name, (s'.host.store url).spec? name = (s.host.store url).spec? name) := by
  intro s
  obtain ⟨⟨done, horder⟩, -⟩ := (InOrder.start specs hsorted).play hothers hfits
  refine ⟨fun i hturns => ?_, fun i result hfinished => ?_, fun place r hplace => ?_,
    fun hover i r hr hfree => horder.existsUnique_made hover hr hfree,
    fun past future hsplit name spec hheld => ?_, fun again later hagain hothers' hfits' => ?_⟩
  · have hleft := turnsLeft_play url specs (start h) schedule i
    exact Provisioner.exists_finished
      (Nat.le_zero.1 (hleft.trans (Nat.sub_eq_zero_of_le hturns).le))
  · obtain ⟨hresources, rfl, -⟩ := horder.of_finished hfinished
    refine ⟨_, rfl, ?_⟩
    rw [hresources, Done.report, List.map_map, List.map_map]
    rfl
  · exact horder.accounted.created place r (horder.made_of_reports hplace)
  · subst hsplit
    obtain ⟨hothers, hothers'⟩ := List.forall_mem_append.1 hothers
    obtain ⟨hfits, hfits'⟩ := List.forall_mem_append.1 hfits
    obtain ⟨⟨_, hmiddle⟩, -⟩ := (InOrder.start specs hsorted).play hothers hfits
    have hlast := (hmiddle.play hothers' hfits').2 name spec hheld
    rwa [← play_append] at hlast
  · obtain ⟨⟨done', horder'⟩, -⟩ :=
      (InOrder.start again horder.sorted).play hothers' hfits'
    refine horder'.all_existed fun j r hr => ?_
    obtain ⟨i, result, hsame, hfinished⟩ := hagain j
    exact horder.held_of_finished hfinished (hsame ▸ hr)

/-- A bucket, and beside it the stream behind it under its own name, asked for twice. -/
def racing : Fin 2 → TopologySpec
  | 0 => ⟨[.bucket { name := "X" }]⟩
  | 1 => ⟨[.stream { name := "KV_X", subjects := ["a"], maxAge := some ⟨5⟩ },
      .stream { name := "KV_X", subjects := ["b"] }]⟩

/-- Both look the stream up before either creates it. -/
def race : List (Nat × Occurrence (Fin 2)) :=
  [(10, .turn 0), (11, .turn 1), (12, .turn 0), (13, .turn 1), (14, .turn 1),
   (15, .request (.publish "a" [1])), (16, .turn 0), (17, .turn 0), (21, .turn 1), (22, .turn 1),
   (23, .turn 1), (24, .turn 1)]

/-- The second provisioner wins, and the first finds the bucket although it was not there when it
looked it up. -/
theorem created_once_race :
    let s := (start {}).play "local" racing race
    s.Over ∧
      (∃! place, ∃ r, Made (s.reports racing) place r ∧ r.backingName = "KV_X") ∧
      s.crew 0 = .finished (.ok [("X", .existed)]) ∧
      s.crew 1 = .finished (.ok [("KV_X", .created), ("KV_X", .existed)]) := by
  have hsorted : (Host.store {} "local").streams.Sorted := List.Pairwise.nil
  have hothers : ∀ e ∈ race, ∀ r, e.2 = .request r → r.spec? = none := by
    intro e he r hr
    simp only [race, List.mem_cons, List.not_mem_nil, or_false] at he
    rcases he with rfl | rfl | rfl | rfl | rfl | rfl | rfl | rfl | rfl | rfl | rfl | rfl
    all_goals first | contradiction | (obtain rfl := Occurrence.request.inj hr; rfl)
  have hfits : ∀ e ∈ race, Fits (Host.store {} "local") racing e.1 := by
    intro e he
    refine ⟨fun name spec h => by contradiction, ?_⟩
    revert e
    decide +kernel
  have hboth := created_once hsorted hothers hfits
  have hover : Over ((start {}).play "local" racing race) := fun i =>
    hboth.1 i (by revert i; decide +kernel)
  exact ⟨hover, hboth.2.2.2.1 hover 0 (.bucket { name := "X" }) (by decide) rfl,
    by decide +kernel, by decide +kernel⟩

end Scene

end EdgeNode
