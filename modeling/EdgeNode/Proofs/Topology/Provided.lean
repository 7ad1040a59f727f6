import EdgeNode.Proofs.Pool.Effects
/-!
# Provisioning that succeeds

At any time during a pass each resource exists or is still to be made, whoever else works on the
store meanwhile, and streams do not disappear.  So a pass that succeeds leaves a store in which all
resources exist, and provisioning succeeds through such a pass only.
-/

namespace EdgeNode

/-- Every resource exists in a store. -/
def Store.Provides (s : Store) (spec : TopologySpec) : Prop :=
  ∀ r ∈ spec.resources, r.backingName ∈ s.streamNames

lemma Store.Provides.grows {s s' : Store} {spec : TopologySpec} (h : s.Provides spec)
    (hgrows : ∀ name ∈ s.streamNames, name ∈ s'.streamNames) : s'.Provides spec :=
  fun r hr => hgrows _ (h r hr)

/-- A resource that a lookup finds exists. -/
lemma Store.mem_streamNames_of_lookup {s : Store} {now : Nat} {r : Resource} {e : Ensured}
    (h : r.afterLookup (s.lookup now r).1 = .ok (some e)) : r.backingName ∈ s.streamNames := by
  rw [mem_streamNames_iff]
  by_contra hnone
  have hspec : s.spec? r.backingName = none :=
    Option.eq_none_iff_forall_ne_some.2 fun spec hspec => hnone ⟨spec, hspec⟩
  rw [afterLookup_of_eq_none hspec] at h
  simp at h

lemma Store.mem_streamNames_create (s : Store) (r : Resource) :
    r.backingName ∈ (s.create r).2.streamNames := by
  rw [create_snd]
  exact mem_streamNames_createStream.2 (.inl r.backingSpec_name.symm)

/-! ### Passes -/

namespace Pass

variable {s s' : Store} {spec : TopologySpec} {pass pass' : Pass} {url : String}
  {accepting : Bool} {h h' : Host}

/-- The resources that a pass has still to make sure of. -/
def left (spec : TopologySpec) : Pass → List Resource
  | .connecting => spec.resources
  | .looking _ left => left
  | .creating _ r left => r :: left

/-- Every resource exists, or the pass has still to make sure of it. -/
def Covers (s : Store) (spec : TopologySpec) (pass : Pass) : Prop :=
  ∀ r ∈ spec.resources, r ∈ pass.left spec ∨ r.backingName ∈ s.streamNames

lemma Covers.grows (hcovers : pass.Covers s spec)
    (hgrows : ∀ name ∈ s.streamNames, name ∈ s'.streamNames) : pass.Covers s' spec :=
  fun r hr => (hcovers r hr).imp_right (hgrows _)

/-- A resource that exists need not be made sure of. -/
lemma Covers.drop {r : Resource} {rest : List Resource} (hcovers : pass.Covers s spec)
    (hleft : pass.left spec = r :: rest) (hexists : r.backingName ∈ s.streamNames)
    (hrest : pass'.left spec = rest) : pass'.Covers s spec := by
  intro r' hr'
  rcases hcovers r' hr' with hmem | hmem
  · rw [hleft] at hmem
    rcases List.mem_cons.1 hmem with rfl | hmem
    · exact .inr hexists
    · exact .inl (hrest ▸ hmem)
  · exact .inr hmem

lemma covers_step (hcovers : pass.Covers (h.store url) spec)
    (hstep : pass.step (.toHost url accepting) spec h = (.next pass', h')) :
    pass'.Covers (h'.store url) spec := by
  have hgrows : ∀ name ∈ (h.store url).streamNames, name ∈ (h'.store url).streamNames := by
    have haffected : Host.Affected (fun _ => False) h _ := pass.affected_step url accepting spec h
    rw [hstep] at haffected
    exact fun name => haffected.mem_streamNames
  cases pass with
  | connecting =>
    simp only [step] at hstep
    split at hstep
    · obtain rfl := Progress.next.inj (congrArg Prod.fst hstep)
      exact fun r hr => .inl hr
    · exact absurd (congrArg Prod.fst hstep) (by simp)
  | looking finished left =>
    cases left with
    | nil => exact absurd (congrArg Prod.fst hstep) (by simp [step])
    | cons r left =>
      simp only [step] at hstep
      split at hstep
      · next hfound =>
        obtain rfl := Progress.next.inj (congrArg Prod.fst hstep)
        have hexists := Store.mem_streamNames_of_lookup hfound
        exact (hcovers.drop rfl hexists rfl).grows hgrows
      · obtain rfl := Progress.next.inj (congrArg Prod.fst hstep)
        exact hcovers.grows hgrows
      · exact absurd (congrArg Prod.fst hstep) (by simp)
      · exact absurd (congrArg Prod.fst hstep) (by simp)
  | creating finished r left =>
    simp only [step] at hstep
    split at hstep
    · obtain ⟨hnext, rfl⟩ := Prod.mk.inj hstep
      obtain rfl := Progress.next.inj hnext
      have hexists : r.backingName
          ∈ (((StoreLink.toHost url accepting).create r h).2.store url).streamNames := by
        rw [StoreLink.toHost, Host.store_withStore_self]
        exact Store.mem_streamNames_create _ r
      exact (hcovers.grows hgrows).drop rfl hexists rfl
    · exact absurd (congrArg Prod.fst hstep) (by simp)

/-- A pass that succeeds leaves nothing to be made sure of. -/
lemma provides_of_step {report : EnsuredList} (hcovers : pass.Covers (h.store url) spec)
    (hstep : pass.step (.toHost url accepting) spec h = (.done (.ok report), h')) :
    (h'.store url).Provides spec := by
  cases pass with
  | connecting =>
    simp only [step] at hstep
    split at hstep <;> exact absurd (congrArg Prod.fst hstep) (by simp)
  | looking finished left =>
    cases left with
    | nil =>
      obtain ⟨-, rfl⟩ := Prod.mk.inj hstep
      exact fun r hr => (hcovers r hr).resolve_left List.not_mem_nil
    | cons r left =>
      simp only [step] at hstep
      split at hstep <;> exact absurd (congrArg Prod.fst hstep) (by simp)
  | creating finished r left =>
    simp only [step] at hstep
    split at hstep <;> exact absurd (congrArg Prod.fst hstep) (by simp)

end Pass

/-! ### Provisioning -/

namespace Provisioning

variable {spec : TopologySpec} {stage stage' : Provisioning} {url : String} {accepting : Bool}
  {c : RetryConfig} {jitter : Float} {now : Nat} {isCancelled : Bool} {h h' : Host}

/-- What is known of the resources while they are provisioned. -/
def Covers (s : Store) (spec : TopologySpec) : Provisioning → Prop
  | .between _ => True
  | .during _ _ pass => pass.Covers s spec

lemma Covers.grows {s s' : Store} (hcovers : stage.Covers s spec)
    (hgrows : ∀ name ∈ s.streamNames, name ∈ s'.streamNames) : stage.Covers s' spec := by
  cases stage with
  | between _ => trivial
  | during attempt delay pass => exact Pass.Covers.grows hcovers hgrows

/-- Between passes nothing is known. -/
lemma covers_of_settle {s : Store} {turn : Retry.Turn Error EnsuredList}
    (h : settle turn = .next stage) : stage.Covers s spec := by
  cases turn with
  | next stage =>
    obtain rfl := Progress.next.inj h
    trivial
  | wait _ | success _ _ | cancelled _ | exhausted _ _ | crash =>
    simp [settle, Retry.Turn.progress, Progress.inside, Progress.map] at h

lemma settle_eq_ok {turn : Retry.Turn Error EnsuredList} {report : ProvisionReport}
    (h : settle turn = .done (.ok report)) : ∃ attempts a, turn = .success attempts a := by
  cases turn with
  | success attempts a => exact ⟨attempts, a, rfl⟩
  | next _ | wait _ | cancelled _ | exhausted _ _ | crash =>
    simp [settle, Retry.Turn.progress, Progress.inside, Progress.map, Outcome.map] at h

lemma covers_step (hcovers : stage.Covers (h.store url) spec)
    (hstep : stage.step (.toHost url accepting) spec c jitter now isCancelled h
      = (.next stage', h')) : stage'.Covers (h'.store url) spec := by
  rcases stage with ⟨⟨attempts, delay⟩ | ⟨attempts, delay, wake⟩⟩ | ⟨attempt, delay, pass⟩
  · simp only [step] at hstep
    split at hstep
    · exact covers_of_settle (Prod.mk.inj hstep).1
    · obtain rfl := Progress.next.inj (congrArg Prod.fst hstep)
      exact fun r hr => .inl hr
  · exact covers_of_settle (Prod.mk.inj hstep).1
  · simp only [step] at hstep
    split at hstep
    · next hpass =>
      obtain ⟨hnext, rfl⟩ := Prod.mk.inj hstep
      obtain rfl := Progress.next.inj hnext
      exact Pass.covers_step hcovers hpass
    · exact absurd (congrArg Prod.fst hstep) (by simp)
    · exact covers_of_settle (Prod.mk.inj hstep).1

/-- **When provisioning succeeds, every resource exists.** -/
theorem provides_of_step {report : ProvisionReport} (hcovers : stage.Covers (h.store url) spec)
    (hstep : stage.step (.toHost url accepting) spec c jitter now isCancelled h
      = (.done (.ok report), h')) : (h'.store url).Provides spec := by
  rcases stage with ⟨⟨attempts, delay⟩ | ⟨attempts, delay, wake⟩⟩ | ⟨attempt, delay, pass⟩
  · simp only [step] at hstep
    split at hstep
    · obtain ⟨_, _, hturn⟩ := settle_eq_ok (Prod.mk.inj hstep).1
      contradiction
    · exact absurd (congrArg Prod.fst hstep) (by simp)
  · obtain ⟨_, _, hturn⟩ := settle_eq_ok (Prod.mk.inj hstep).1
    unfold Retry.afterPause at hturn
    split at hturn
    · contradiction
    · split at hturn
      · contradiction
      · split at hturn <;> contradiction
  · simp only [step] at hstep
    split at hstep
    · exact absurd (congrArg Prod.fst hstep) (by simp)
    · exact absurd (congrArg Prod.fst hstep) (by simp)
    · next result _ hpass =>
      obtain ⟨hsettle, rfl⟩ := Prod.mk.inj hstep
      obtain ⟨_, _, hturn⟩ := settle_eq_ok hsettle
      cases result with
      | ok report => exact Pass.provides_of_step hcovers hpass
      | crash => contradiction
      | error e =>
        -- a pass that failed is no success
        unfold Retry.afterAttempt at hturn
        split at hturn
        · contradiction
        · contradiction
        · split at hturn
          · contradiction
          · split at hturn <;> contradiction

end Provisioning

end EdgeNode
