import EdgeNode.Proofs.Subjects.Below
import EdgeNode.Store.Stream
/-!
# Which subjects streams capture

What a stream captures is settled by what it was asked to be, and mostly by one pattern with an open
end.  The stream behind a bucket has such a pattern for the keys of the bucket.  Neither the name of
a bucket nor a key is checked, so whether a key is captured turns on the name: `keys_captured` says
when the stream behind a bucket captures the keys of its own and of other buckets.
-/

namespace EdgeNode

open Subject (tokens anyToken openEnd covers IsLiteral)

/-- Whether a stream that was asked for captures a subject. -/
def StreamSpec.captures (spec : StreamSpec) (subject : String) : Bool :=
  spec.subjects.any fun pattern => covers pattern subject

lemma Stream.captures_eq (s : Stream) (subject : String) :
    s.captures subject = s.spec.captures subject := rfl

lemma StreamSpec.captures_of_subjects {spec : StreamSpec} {pattern : String}
    (h : spec.subjects = [pattern]) (subject : String) :
    spec.captures subject = covers pattern subject := by
  simp [StreamSpec.captures, h]

/-- Two streams have no subject in common. -/
def StreamSpec.Apart (spec spec' : StreamSpec) : Prop :=
  ∀ subject, ¬ (spec.captures subject = true ∧ spec'.captures subject = true)

lemma StreamSpec.Apart.symm {spec spec' : StreamSpec} (h : spec.Apart spec') : spec'.Apart spec :=
  fun subject hboth => h subject hboth.symm

/-- Streams for what is below two subjects are apart when neither subject goes on from the other. -/
lemma StreamSpec.apart_of_fronts {spec spec' : StreamSpec} {front front' : String}
    (hspec : spec.subjects = [front ++ ".>"]) (hspec' : spec'.subjects = [front' ++ ".>"])
    (hliteral : IsLiteral front) (hliteral' : IsLiteral front')
    (h : ¬ tokens front <+: tokens front') (h' : ¬ tokens front' <+: tokens front) :
    spec.Apart spec' := by
  rintro subject ⟨hcap, hcap'⟩
  rw [captures_of_subjects hspec] at hcap
  rw [captures_of_subjects hspec'] at hcap'
  exact (Subject.prefix_or_prefix_of_covers hliteral hliteral' hcap hcap').elim h h'

namespace BucketSpec

/-- The subject that all keys of a bucket are below. -/
def base (b : BucketSpec) : String :=
  "$KV." ++ b.name

/-- A name of a bucket that is one token and stands for no others. -/
structure IsSingle (name : String) : Prop where
  dotless : '.' ∉ name.toList
  notAny : name ≠ "*"
  notOpen : name ≠ ">"

instance (name : String) : Decidable (IsSingle name) :=
  decidable_of_iff ('.' ∉ name.toList ∧ name ≠ "*" ∧ name ≠ ">")
    ⟨fun ⟨h, h', h''⟩ => ⟨h, h', h''⟩, fun ⟨h, h', h''⟩ => ⟨h, h', h''⟩⟩

variable {b b' : BucketSpec} {key : String}

lemma subjectPrefix_append (b : BucketSpec) (key : String) :
    b.subjectPrefix ++ key = b.base ++ "." ++ key := rfl

lemma captures_backingStream (b : BucketSpec) (subject : String) :
    b.backingStream.captures subject = covers (b.base ++ ".>") subject :=
  StreamSpec.captures_of_subjects rfl subject

lemma tokens_base (b : BucketSpec) : tokens b.base = "$KV".toList :: tokens b.name := by
  have hbase : b.base = "$KV" ++ "." ++ b.name := rfl
  have hfirst : tokens "$KV" = ["$KV".toList] := by decide
  rw [hbase, Subject.tokens_below, hfirst, List.singleton_append]

lemma openEnd_notMem_tokens_base : openEnd ∉ tokens b.base ↔ openEnd ∉ tokens b.name := by
  rw [tokens_base, List.mem_cons, not_or]
  exact and_iff_right (by decide)

/-- A bucket has its own keys unless a token of its name stands for all that is left. -/
lemma captures_own_key_iff :
    b.backingStream.captures (b.subjectPrefix ++ key) = true ↔ openEnd ∉ tokens b.name := by
  rw [captures_backingStream, subjectPrefix_append, Subject.covers_openEnd_iff,
    openEnd_notMem_tokens_base]
  constructor
  · exact And.left
  · intro h
    exact ⟨h, b.base, key, rfl, Subject.covers_self (openEnd_notMem_tokens_base.2 h)⟩

lemma IsSingle.tokens_eq {name : String} (h : IsSingle name) : tokens name = [name.toList] :=
  Subject.tokens_of_dotless h.dotless

lemma IsSingle.isLiteral_base (h : IsSingle b.name) : IsLiteral b.base := by
  have hany : anyToken ≠ b.name.toList := fun heq => h.notAny (String.toList_inj.1 heq.symm)
  have hopen : openEnd ≠ b.name.toList := fun heq => h.notOpen (String.toList_inj.1 heq.symm)
  constructor <;> rw [tokens_base, h.tokens_eq, List.mem_cons, List.mem_singleton, not_or]
  · exact ⟨by decide, hany⟩
  · exact ⟨by decide, hopen⟩

/-- Buckets whose names are one token each have the keys of one another only under one name. -/
lemma captures_key_iff (h : IsSingle b.name) (h' : IsSingle b'.name) :
    b.backingStream.captures (b'.subjectPrefix ++ key) = true ↔ b.name = b'.name := by
  rw [captures_backingStream, subjectPrefix_append, Subject.covers_below_iff h.isLiteral_base]
  constructor
  · rintro ⟨rest, hrest⟩
    have htokens := congrArg tokens hrest
    rw [Subject.tokens_below, Subject.tokens_below, tokens_base, tokens_base, h.tokens_eq,
      h'.tokens_eq] at htokens
    -- behind the token that all buckets share stand the names
    have hnames := (List.cons.inj (List.cons.inj htokens).2).1
    exact (String.toList_inj.1 hnames).symm
  · intro hname
    exact ⟨key, by rw [base, base, hname]⟩

/-- **Keys belong to their bucket.**  The stream behind a bucket captures every key of the bucket,
whatever the key is, unless a token of the name stands for all that is left; and of buckets whose
names are single literal tokens it captures the keys of those with its own name only. -/
theorem keys_captured :
    (∀ (b : BucketSpec) (key : String),
      b.backingStream.captures (b.subjectPrefix ++ key) = true ↔ openEnd ∉ tokens b.name) ∧
    ∀ b b' : BucketSpec, IsSingle b.name → IsSingle b'.name → ∀ key : String,
      (b.backingStream.captures (b'.subjectPrefix ++ key) = true ↔ b.name = b'.name) :=
  ⟨fun _ _ => captures_own_key_iff, fun _ _ h h' _ => captures_key_iff h h'⟩

/-- A bucket called after two tokens, one of them a wildcard, has its own empty key, one called
after an open end has not, and one without a name shares no key with another. -/
theorem keys_captured_oddNames :
    (backingStream { name := "a.*" }).captures "$KV.a.*." = true ∧
    (backingStream { name := "a.>" }).captures "$KV.a.>.k" ≠ true ∧
    (backingStream { name := "" }).captures "$KV.CONFIG.k" ≠ true := by
  obtain ⟨hown, hother⟩ := keys_captured
  refine ⟨?_, ?_, ?_⟩
  · exact (hown { name := "a.*" } "").2 (by decide)
  · rw [show "$KV.a.>.k" = subjectPrefix { name := "a.>" } ++ "k" by decide, ne_eq, hown]
    decide
  · rw [show "$KV.CONFIG.k" = subjectPrefix { name := "CONFIG" } ++ "k" by decide, ne_eq,
      hother _ _ (by decide) (by decide)]
    decide

end BucketSpec

end EdgeNode
