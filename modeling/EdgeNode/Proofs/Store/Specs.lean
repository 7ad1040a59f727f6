import EdgeNode.Proofs.Store.Requests
import EdgeNode.Topology
/-!
# Which streams there are

Whoever makes streams sees of a store only which streams it has and what they were asked to be:
`Store.spec?`.  Requests that create nothing leave that alone, and a creation adds a stream where
there was none.  Looking a resource up and creating it are answered accordingly.
-/

namespace EdgeNode

/-- What the stream of a name was asked to be. -/
def Store.spec? (s : Store) (name : String) : Option StreamSpec :=
  (s.streams.get? name).map Stream.spec

/-- What the stream that a resource is or rests on is asked to be. -/
def Resource.backingSpec : Resource → StreamSpec
  | .bucket b => b.backingStream
  | .stream spec => spec

@[simp] lemma Resource.backingSpec_name (r : Resource) : r.backingSpec.name = r.backingName := by
  cases r <;> rfl

namespace Store

variable {s : Store} {now : Nat}

lemma spec?_eq_none_iff {name : String} :
    s.spec? name = none ↔ s.streams.get? name = none :=
  Option.map_eq_none_iff

lemma has_of_spec? {name : String} {spec : StreamSpec} (h : s.spec? name = some spec) :
    s.streams.has name := by
  obtain ⟨stream, hstream, -⟩ := Option.map_eq_some_iff.1 h
  rw [Keyed.has, hstream]
  rfl

/-- A stream that is there stays what it was asked to be. -/
theorem spec?_serve_of_eq_some (hs : s.streams.Sorted) {name : String} {spec : StreamSpec}
    (h : s.spec? name = some spec) (now : Nat) (r : Request) :
    (s.serve now r).spec? name = some spec := by
  obtain ⟨stream, hstream, rfl⟩ := Option.map_eq_some_iff.1 h
  have hchange := change_serve hs name now r
  rw [hstream] at hchange
  obtain ⟨stream', hstream', hgrows⟩ := hchange.grows
  rw [spec?, hstream', Option.map_some, hgrows.spec_eq]

/-- A request that creates nothing adds no stream either. -/
theorem spec?_serve (hs : s.streams.Sorted) {r : Request} (hr : r.spec? = none) (now : Nat)
    (name : String) : (s.serve now r).spec? name = s.spec? name := by
  cases hspec : s.spec? name with
  | some spec => exact spec?_serve_of_eq_some hs hspec now r
  | none =>
    have hchange := change_serve hs name now r
    rw [spec?_eq_none_iff.1 hspec] at hchange
    rw [spec?]
    generalize (s.serve now r).streams.get? name = stream?, s.arrivals name now r = arrived
      at hchange
    cases hchange with
    | same _ => rfl
    | created _ hcreates => rw [hr] at hcreates; contradiction

/-- A creation adds a stream, but only where there is none. -/
lemma spec?_createStream (s : Store) (spec : StreamSpec) (name : String) :
    (s.createStream spec).2.spec? name
      = if spec.name = name then some ((s.spec? name).getD spec) else s.spec? name := by
  unfold createStream
  split
  · next htaken =>
    split
    · next hname =>
      obtain ⟨stream, hstream⟩ := Option.isSome_iff_exists.1 htaken
      rw [hname] at hstream
      rw [spec?, hstream]
      rfl
    · rfl
  · next hfree =>
    have hnone : s.streams.get? spec.name = none := by simpa [Keyed.has] using hfree
    rw [spec?, spec?, Keyed.get?_insert]
    split
    · next hname =>
      rw [← hname, hnone]
      rfl
    · rfl

/-- Where streams were asked for alike, subjects are routed alike. -/
lemma route?_of_spec? {s' : Store} (hs : s.streams.Sorted) (hs' : s'.streams.Sorted)
    (hspec : ∀ name, s'.spec? name = s.spec? name) {subject name : String} {stream' : Stream}
    (h : s'.route? subject = some (name, stream')) :
    ∃ stream, s.route? subject = some (name, stream) := by
  -- the stream of a name in the one store captures what it does in the other
  have hother : ∀ {s s' : Store}, (∀ name, s'.spec? name = s.spec? name) →
      ∀ {name stream'}, s'.streams.get? name = some stream' → stream'.captures subject →
        ∃ stream, s.streams.get? name = some stream ∧ stream.captures subject := by
    intro s s' hspec name stream' hstream' hcap
    have hsame := hspec name
    rw [spec?, hstream', Option.map_some] at hsame
    obtain ⟨stream, hstream, heq⟩ := Option.map_eq_some_iff.1 hsame.symm
    rw [Stream.captures, ← heq] at hcap
    exact ⟨stream, hstream, hcap⟩
  obtain ⟨hname, hcap, hleast⟩ := (Keyed.Sorted.find?_eq_some_iff hs').1 h
  obtain ⟨stream, hstream, hcap'⟩ := hother hspec hname hcap
  refine ⟨stream, (Keyed.Sorted.find?_eq_some_iff hs).2 ⟨hstream, hcap', ?_⟩⟩
  intro other stream₁ hstream₁ hcap₁
  obtain ⟨stream₂, hstream₂, hcap₂⟩ := hother (fun name => (hspec name).symm) hstream₁ hcap₁
  exact hleast other stream₂ hstream₂ hcap₂

/-! ### Names -/

lemma mem_streamNames_iff {name : String} :
    name ∈ s.streamNames ↔ ∃ spec, s.spec? name = some spec := by
  rw [streamNames, Keyed.keys, List.mem_map, spec?, ← Option.isSome_iff_exists, Option.isSome_map,
    Keyed.get?, Option.isSome_map, List.find?_isSome]
  simp only [beq_iff_eq]

lemma streamNames_setStream (s : Store) (name : String) (stream : Stream) :
    (s.setStream name stream).streamNames = s.streamNames := by
  rw [streamNames, setStream, Keyed.modify, Keyed.keys, List.map_map, streamNames, Keyed.keys]
  refine List.map_congr_left fun e _ => ?_
  rw [Function.comp_apply]
  split <;> rfl

lemma streamNames_streamInfo (s : Store) (now : Nat) (name : String) :
    (s.streamInfo now name).2.streamNames = s.streamNames := by
  unfold streamInfo
  split
  · rfl
  · split
    · rfl
    · exact streamNames_setStream ..

lemma streamNames_publish (s : Store) (now : Nat) (subject : String) (payload : Bytes) :
    (s.publish now subject payload).2.streamNames = s.streamNames := by
  cases hroute : s.route? subject with
  | none => rw [publish_snd_of_eq_none hroute]
  | some e => rw [publish_snd hroute, streamNames_setStream]

lemma mem_streamNames_createStream {spec : StreamSpec} {name : String} :
    name ∈ (s.createStream spec).2.streamNames ↔ name = spec.name ∨ name ∈ s.streamNames := by
  rw [mem_streamNames_iff, spec?_createStream, mem_streamNames_iff]
  by_cases hname : spec.name = name
  · simp [hname]
  · simp [hname, Ne.symm hname]

/-- No request makes a stream disappear. -/
lemma mem_streamNames_serve {name : String} (h : name ∈ s.streamNames) (now : Nat) (r : Request) :
    name ∈ (s.serve now r).streamNames := by
  cases r with
  | createStream spec => exact mem_streamNames_createStream.2 (.inr h)
  | createBucket spec =>
    rw [serve, createBucket_snd]
    exact mem_streamNames_createStream.2 (.inr h)
  | publish subject payload => rwa [serve, streamNames_publish]
  | fetch name after limit => rwa [serve, fetch_snd, streamNames_streamInfo]
  | streamInfo name => rwa [serve, streamNames_streamInfo]
  | bucketInfo name => rwa [serve, bucketInfo_snd, streamNames_streamInfo]

/-! ### Resources -/

lemma lookup_snd (s : Store) (now : Nat) (r : Resource) :
    (s.lookup now r).2 = (s.streamInfo now r.backingName).2 := by
  cases r with
  | bucket b => exact bucketInfo_snd s now b.name
  | stream spec => rfl

lemma create_snd (s : Store) (r : Resource) :
    (s.create r).2 = (s.createStream r.backingSpec).2 := by
  cases r with
  | bucket b => exact createBucket_snd s b
  | stream spec => rfl

lemma spec?_lookup (hs : s.streams.Sorted) (now : Nat) (r : Resource) (name : String) :
    (s.lookup now r).2.spec? name = s.spec? name := by
  rw [lookup_snd]
  exact spec?_serve hs (r := .streamInfo r.backingName) rfl now name

lemma spec?_create (s : Store) (r : Resource) (name : String) :
    (s.create r).2.spec? name
      = if r.backingName = name then some ((s.spec? name).getD r.backingSpec)
        else s.spec? name := by
  rw [create_snd, spec?_createStream, Resource.backingSpec_name]

lemma sorted_lookup (hs : s.streams.Sorted) (now : Nat) (r : Resource) :
    (s.lookup now r).2.streams.Sorted := by
  rw [lookup_snd]
  exact sorted_streamInfo hs now _

lemma sorted_create (hs : s.streams.Sorted) (r : Resource) :
    (s.create r).2.streams.Sorted := by
  rw [create_snd]
  exact sorted_createStream hs _

lemma streamInfo_of_spec?_eq_none {name : String} (h : s.spec? name = none) (now : Nat) :
    s.streamInfo now name = (.error (.notFound name), s) := by
  simp only [streamInfo, spec?_eq_none_iff.1 h]

lemma streamInfo_of_spec? {name : String} {spec : StreamSpec} (h : s.spec? name = some spec)
    (hfits : spec.AgeFits now) : ∃ info, (s.streamInfo now name).1 = .ok info := by
  obtain ⟨stream, hstream, rfl⟩ := Option.map_eq_some_iff.1 h
  simp only [streamInfo, hstream, Stream.expire?_of_ageFits hfits]
  exact ⟨_, rfl⟩

/-- A resource that is not there is to be created. -/
lemma afterLookup_of_eq_none {r : Resource} (h : s.spec? r.backingName = none) (now : Nat) :
    r.afterLookup (s.lookup now r).1 = .ok none := by
  cases r with
  | bucket b =>
    have hinfo : s.streamInfo now (bucketStreamName b.name) = _ := streamInfo_of_spec?_eq_none h now
    simp only [lookup, bucketInfo, hinfo]
    rfl
  | stream spec =>
    have hinfo : s.streamInfo now spec.name = _ := streamInfo_of_spec?_eq_none h now
    simp only [lookup, hinfo]
    rfl

/-- A resource that is there is found, where its age limit can be applied. -/
lemma afterLookup_of_eq_some {r : Resource} {spec : StreamSpec}
    (h : s.spec? r.backingName = some spec) (hfits : spec.AgeFits now) :
    r.afterLookup (s.lookup now r).1 = .ok (some .existed) := by
  obtain ⟨info, hinfo⟩ := streamInfo_of_spec? h hfits
  cases r with
  | bucket b =>
    have hanswer : (s.bucketInfo now b.name).1 = .ok info := by
      unfold bucketInfo
      split
      · next heq =>
        have hrefused := congrArg Prod.fst heq
        exact absurd (hrefused.symm.trans hinfo) (by simp)
      · exact hinfo
    rw [lookup, hanswer]
    rfl
  | stream spec =>
    have hanswer : (s.streamInfo now spec.name).1 = .ok info := hinfo
    rw [lookup, hanswer]
    rfl

lemma createStream_of_eq_none {spec : StreamSpec} (h : s.spec? spec.name = none) :
    (s.createStream spec).1 = .ok ({ spec } : Stream).info := by
  have hfree : s.streams.has spec.name = false := by rw [Keyed.has, spec?_eq_none_iff.1 h]; rfl
  simp only [createStream, hfree]
  rfl

/-- Creating a resource that is there already is no failure. -/
lemma afterCreate_of_eq_some {r : Resource} {held : StreamSpec}
    (h : s.spec? r.backingName = some held) : r.afterCreate (s.create r).1 = .ok .existed := by
  cases r with
  | bucket b =>
    have hstream : s.createStream b.backingStream = _ := createStream_of_has (has_of_spec? h)
    simp only [create, createBucket, hstream]
    rfl
  | stream spec =>
    have hstream : s.createStream spec = _ := createStream_of_has (has_of_spec? h)
    simp only [create, hstream]
    rfl

lemma afterCreate_of_eq_none {r : Resource} (h : s.spec? r.backingName = none) :
    r.afterCreate (s.create r).1 = .ok .created := by
  cases r with
  | bucket b =>
    have hstream : (s.createStream b.backingStream).1 = _ := createStream_of_eq_none h
    have hbucket : (s.createBucket b).1 = (s.createStream b.backingStream).1 := by
      unfold createBucket
      split
      · next heq => rw [heq] at hstream; contradiction
      · rfl
    rw [create, hbucket, hstream]
    rfl
  | stream spec =>
    have hstream : (s.createStream spec).1 = _ := createStream_of_eq_none h
    rw [create, hstream]
    rfl

end Store

end EdgeNode
