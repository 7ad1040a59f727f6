import EdgeNode.Broker.Config
import EdgeNode.Proofs.Store.Captured
import EdgeNode.Proofs.Store.Routing
import EdgeNode.Proofs.Store.Specs
import Mathlib.Data.List.Pairwise
/-!
# The streams of a site

A store that has the streams of a topology and no others (`Store.HasOnly`) is what creating its
resources one after another makes of the empty store, and it stays so while nobody creates anything
else.  The streams of a site have no subject in common, and what the adapter publishes for a sender
goes to the stream of registrations, whatever the sender is called.
-/

namespace EdgeNode

open Subject (IsLiteral)

/-! ### The subjects of an adapter -/

namespace AdapterConfig

/-- Nothing is replaced in front of the first place for the sender. -/
lemma replaceSender_append {front : List Char} (h : '%' ∉ front) (sender rest : List Char) :
    replaceSender sender (front ++ '%' :: 's' :: rest)
      = front ++ sender ++ replaceSender sender rest := by
  induction front with
  | nil => rw [List.nil_append, replaceSender, List.nil_append]
  | cons c front ih =>
    obtain ⟨hc, hfront⟩ := not_or.1 (mt List.mem_cons.2 h)
    have hplain : ∀ cs, replaceSender sender (c :: cs) = c :: replaceSender sender cs := by
      intro cs
      rw [replaceSender]
      rintro rest rfl -
      exact hc rfl
    rw [List.cons_append, hplain, ih hfront]
    rfl

/-- What is registered for a sender is below the subject for nodes. -/
lemma streamSubject_registration (sender : String) :
    registration.streamSubject sender = "machine_room.nodes" ++ "." ++ sender := by
  have htopic : registration.streamTopic.toList
      = "machine_room.nodes.".toList ++ '%' :: 's' :: [] := by decide
  rw [streamSubject, htopic, replaceSender_append (by decide), replaceSender, List.append_nil,
    ← String.toList_inj]
  simp [String.toList_append]

end AdapterConfig

/-! ### Stores with the streams of a topology -/

/-- What a topology asks the stream of a name to be: of resources that rest on one stream the first
counts. -/
def TopologySpec.spec? (t : TopologySpec) (name : String) : Option StreamSpec :=
  (t.resources.find? fun r => r.backingName == name).map Resource.backingSpec

/-- The streams of a topology have no subject in common. -/
def TopologySpec.IsApart (t : TopologySpec) : Prop :=
  t.resources.Pairwise fun r r' => r.backingSpec.Apart r'.backingSpec

lemma TopologySpec.exists_resource {t : TopologySpec} {name : String} {spec : StreamSpec}
    (h : t.spec? name = some spec) :
    ∃ r ∈ t.resources, r.backingName = name ∧ r.backingSpec = spec := by
  obtain ⟨r, hfind, hspec⟩ := Option.map_eq_some_iff.1 h
  exact ⟨r, List.mem_of_find?_eq_some hfind, by simpa using List.find?_some hfind, hspec⟩

namespace Store

/-- A store has the streams of a topology, as they were asked for, and no others. -/
structure HasOnly (s : Store) (t : TopologySpec) : Prop where
  sorted : s.streams.Sorted
  spec?_eq : ∀ name, s.spec? name = t.spec? name

/-- The store after resources were created one after another. -/
def createAll (s : Store) (resources : List Resource) : Store :=
  resources.foldl (fun s r => (s.create r).2) s

variable {s : Store} {t : TopologySpec}

/-- Creating the resources of a topology makes a store that has just its streams. -/
theorem hasOnly_createAll (t : TopologySpec) : (createAll {} t.resources).HasOnly t := by
  obtain ⟨resources⟩ := t
  induction resources using List.reverseRecOn with
  | nil => exact ⟨sorted_empty, fun _ => rfl⟩
  | append_singleton resources r ih =>
    have hlast : createAll {} (resources ++ [r]) = ((createAll {} resources).create r).2 := by
      simp [createAll]
    simp only at ih ⊢
    rw [hlast]
    refine ⟨sorted_create ih.sorted r, fun name => ?_⟩
    -- a name that is taken stays with the resource that took it
    rw [spec?_create, ih.spec?_eq, TopologySpec.spec?, TopologySpec.spec?, List.find?_append]
    by_cases hname : r.backingName = name
    · cases hfind : resources.find? fun r => r.backingName == name <;> simp [hname]
    · cases hfind : resources.find? fun r => r.backingName == name <;> simp [hname]

/-- A request that creates streams of the topology only leaves the store with just these. -/
theorem HasOnly.serve (h : s.HasOnly t) {r : Request}
    (hr : ∀ spec, r.spec? = some spec → t.spec? spec.name ≠ none) (now : Nat) :
    (s.serve now r).HasOnly t := by
  refine ⟨sorted_serve h.sorted now r, fun name => ?_⟩
  cases hspec : t.spec? name with
  | some spec => exact spec?_serve_of_eq_some h.sorted ((h.spec?_eq name).trans hspec) now r
  | none =>
    have hfree := spec?_eq_none_iff.1 ((h.spec?_eq name).trans hspec)
    have hchange := change_serve h.sorted name now r
    rw [hfree] at hchange
    rw [spec?_eq_none_iff]
    generalize (s.serve now r).streams.get? name = stream?, s.arrivals name now r = arrived
      at hchange
    cases hchange with
    | same _ => rfl
    | created hname hcreates => exact absurd (hname ▸ hspec) (hr _ hcreates)

/-- Whatever is published or looked at, a store has just the streams that it had. -/
theorem HasOnly.serveAll {run : List (Nat × Request)} (h : s.HasOnly t)
    (hrun : ∀ e ∈ run, ∀ spec, e.2.spec? = some spec → t.spec? spec.name ≠ none) :
    (s.serveAll run).HasOnly t := by
  induction run generalizing s with
  | nil => exact h
  | cons e run ih =>
    exact ih (h.serve (hrun e List.mem_cons_self) e.1)
      fun e' he' => hrun e' (List.mem_cons_of_mem _ he')

/-! ### Streams that have no subject in common -/

/-- A subject is captured by one of such streams at most. -/
lemma HasOnly.name_eq {subject name name' : String} {stream stream' : Stream} (h : s.HasOnly t)
    (hapart : t.IsApart) (hstream : s.streams.get? name = some stream)
    (hstream' : s.streams.get? name' = some stream') (hcap : stream.captures subject = true)
    (hcap' : stream'.captures subject = true) : name = name' := by
  have hasked : ∀ {name stream}, s.streams.get? name = some stream →
      ∃ r ∈ t.resources, r.backingName = name ∧ r.backingSpec = stream.spec := by
    intro name stream hstream
    refine TopologySpec.exists_resource ?_
    rw [← h.spec?_eq, Store.spec?, hstream]
    rfl
  obtain ⟨r, hr, rfl, hspec⟩ := hasked hstream
  obtain ⟨r', hr', rfl, hspec'⟩ := hasked hstream'
  by_contra hne
  have hsymm : Std.Symm fun r r' : Resource => r.backingSpec.Apart r'.backingSpec :=
    ⟨fun _ _ => StreamSpec.Apart.symm⟩
  rw [Stream.captures_eq, ← hspec] at hcap
  rw [Stream.captures_eq, ← hspec'] at hcap'
  have hresources : r ≠ r' := fun heq => hne (congrArg Resource.backingName heq)
  exact List.Pairwise.forall hapart hr hr' hresources subject ⟨hcap, hcap'⟩

/-- So the one that captures a subject is where the subject is routed to. -/
lemma HasOnly.route?_eq {subject name : String} {stream : Stream} (h : s.HasOnly t)
    (hapart : t.IsApart) (hstream : s.streams.get? name = some stream)
    (hcap : stream.captures subject = true) : s.route? subject = some (name, stream) := by
  rw [route?, Keyed.Sorted.find?_eq_some_iff h.sorted]
  refine ⟨hstream, hcap, fun other stream' hstream' hcap' => ?_⟩
  obtain rfl := h.name_eq hapart hstream hstream' hcap hcap'
  exact String.le_refl name

/-! ### The streams of a site -/

lemma isApart_standard : TopologySpec.standard.IsApart := by
  have hkeys : IsLiteral "$KV.CONFIG" := by decide
  have hnodes : IsLiteral "machine_room.nodes" := by decide
  have hsubmissions : IsLiteral "choria.submission.in" := by decide
  simp only [TopologySpec.IsApart, TopologySpec.standard, List.pairwise_cons, List.mem_cons,
    List.not_mem_nil, or_false, forall_eq_or_imp, forall_eq]
  refine ⟨⟨?_, ?_⟩, ?_, by simp, .nil⟩
  · exact StreamSpec.apart_of_fronts rfl rfl hkeys hnodes (by decide) (by decide)
  · exact StreamSpec.apart_of_fronts rfl rfl hkeys hsubmissions (by decide) (by decide)
  · exact StreamSpec.apart_of_fronts rfl rfl hnodes hsubmissions (by decide) (by decide)

/-- The stream of registrations is there, and it can apply its age limit at any time. -/
lemma HasOnly.exists_registration (h : s.HasOnly .standard) (now : Nat) :
    ∃ stream, s.streams.get? "REGISTRATION" = some stream ∧
      stream.spec.subjects = ["machine_room.nodes.>"] ∧ stream.spec.AgeFits now := by
  have hasked : s.spec? "REGISTRATION" = TopologySpec.standard.spec? "REGISTRATION" :=
    h.spec?_eq "REGISTRATION"
  obtain ⟨stream, hstream, hspec⟩ := Option.map_eq_some_iff.1 hasked
  refine ⟨stream, hstream, by rw [hspec]; rfl, fun age hage => ?_⟩
  rw [hspec] at hage
  obtain rfl := Option.some.inj hage
  have hday : (Duration.ofSecs 86400).nanos = 86400000000000 := by decide
  have hearliest : Stream.earliest ≤ -86400000000000 := by decide
  rw [hday]
  exact ⟨by decide, by omega⟩

/-- **Registrations reach their stream.**  In a store with the streams of a site a subject is
captured by one of them at most; and what is published for a sender, whatever it is called, is taken
by the stream of registrations, while all other streams stay as they were. -/
theorem registration_taken (h : s.HasOnly .standard) :
    (∀ subject name name' stream stream', s.streams.get? name = some stream →
      s.streams.get? name' = some stream' → stream.captures subject = true →
      stream'.captures subject = true → name = name') ∧
    ∀ (sender : String) (now : Nat) (payload : Bytes),
      let subject := AdapterConfig.registration.streamSubject sender
      ∃ stream, s.streams.get? "REGISTRATION" = some stream ∧ stream.captures subject = true ∧
        (s.publish now subject payload).1 = .ok (stream.lastSequence + 1) ∧
        TakesOnly s (s.publish now subject payload).2 "REGISTRATION"
          { sequence := stream.lastSequence + 1, subject, payload, published := now } ∧
        (s.publish now subject payload).2.HasOnly .standard := by
  refine ⟨fun _ _ _ _ _ => h.name_eq isApart_standard, fun sender now payload => ?_⟩
  obtain ⟨stream, hstream, hsubjects, hfits⟩ := h.exists_registration now
  simp only
  generalize hsubject : AdapterConfig.registration.streamSubject sender = subject
  have hliteral : IsLiteral "machine_room.nodes" := by decide
  have hcap : stream.captures subject = true := by
    rw [Stream.captures_eq, StreamSpec.captures_of_subjects hsubjects, ← hsubject,
      AdapterConfig.streamSubject_registration]
    exact (Subject.covers_below_iff hliteral).2 ⟨sender, rfl⟩
  have hroute := h.route?_eq isApart_standard hstream hcap
  have hkept : (s.serve now (.publish subject payload)).HasOnly .standard :=
    h.serve (fun _ hspec => by contradiction) now
  refine ⟨stream, hstream, hcap, publish_fst hroute hfits payload, ?_, hkept⟩
  rw [publish_snd hroute]
  exact takesOnly_publish hstream subject payload

/-- A sender called after an open end and a place for a sender is registered like any other. -/
theorem registration_taken_oddSender :
    let s := (createAll {} TopologySpec.standard.resources).serveAll
      [(1, .publish "choria.submission.in.a" [1]), (2, .createBucket { name := "CONFIG" }),
        (3, .publish "machine_room.nodes.n1" [2])]
    (s.publish 4 "machine_room.nodes.>.%s" [3]).1 = .ok 2 ∧
      (s.publish 4 "machine_room.nodes.>.%s" [3]).2.streams.get? "SUBMIT"
        = s.streams.get? "SUBMIT" := by
  intro s
  have hs : s.HasOnly .standard := by
    refine (hasOnly_createAll .standard).serveAll fun e he spec hspec => ?_
    simp only [List.mem_cons, List.not_mem_nil, or_false] at he
    rcases he with rfl | rfl | rfl
    · contradiction
    · obtain rfl := Option.some.inj hspec
      decide
    · contradiction
  obtain ⟨stream, hstream, -, hanswer, htakes, -⟩ := (registration_taken hs).2 ">.%s" 4 [3]
  have hnumber : (s.streams.get? "REGISTRATION").map Stream.lastSequence = some 1 := by
    decide +kernel
  rw [hstream] at hnumber
  have hlast : stream.lastSequence = 1 := Option.some.inj hnumber
  rw [hlast] at hanswer
  exact ⟨hanswer, htakes.others "SUBMIT" (by decide)⟩

end Store

end EdgeNode
