import EdgeNode.Proofs.Topology.Concurrent
/-!
# Attempts that may fail

A broker may refuse a connection, or leave a request unanswered and do nothing for it.
`StoreLink.faulty` is a link to a host where a script says which requests these are; it notes down
what was asked in each attempt.  An attempt that goes on (`Going`) has asked for the first
resources, one after another, and one that fell (`Fell`) did so up to the request that failed.
-/

namespace EdgeNode

/-- What is asked of a broker while resources are made. -/
inductive Ask where
  /-- To let somebody in. -/
  | connect
  /-- To look a resource up. -/
  | lookup (r : Resource)
  /-- To create a resource. -/
  | create (r : Resource)
deriving DecidableEq, Repr

/-- Why the request at a place of an attempt fails, where it does; attempts and places are counted
from zero. -/
abbrev Faults := ℕ → ℕ → Option String

/-- A host, and what was asked of its broker in each attempt. -/
structure Trial where
  /-- The host. -/
  host : Host
  /-- The attempts. -/
  attempts : List (List Ask) := []

namespace Trial

/-- The last attempt. -/
def current (t : Trial) : List Ask :=
  t.attempts.getLast?.getD []

/-- Notes a request down.  An attempt begins with a connection. -/
def note (t : Trial) : Ask → Trial
  | .connect => { t with attempts := t.attempts ++ [[.connect]] }
  | asked => { t with attempts := t.attempts.dropLast ++ [t.current ++ [asked]] }

/-- Why a request fails that is made next. -/
def fault? (faults : Faults) (t : Trial) : Ask → Option String
  | .connect => faults t.attempts.length 0
  | _ => faults (t.attempts.length - 1) t.current.length

variable {t : Trial} {past : List (List Ask)} {asked : List Ask} {ask : Ask} {faults : Faults}

@[simp] lemma note_host (t : Trial) (ask : Ask) : (t.note ask).host = t.host := by
  cases ask <;> rfl

lemma note_attempts (ht : t.attempts = past ++ [asked]) (hask : ask ≠ .connect) :
    (t.note ask).attempts = past ++ [asked ++ [ask]] := by
  cases ask with
  | connect => contradiction
  | lookup r | create r => simp [note, current, ht]

lemma fault?_eq (ht : t.attempts = past ++ [asked]) (hask : ask ≠ .connect) :
    t.fault? faults ask = faults past.length asked.length := by
  cases ask with
  | connect => contradiction
  | lookup r | create r => simp [fault?, current, ht]

/-- What was asked stays noted down. -/
lemma note_grows (t : Trial) (ask : Ask) {k : ℕ} (hk : t.attempts[k]? = some asked) :
    ∃ more, (t.note ask).attempts[k]? = some (asked ++ more) := by
  obtain ⟨hlt, -⟩ := List.getElem?_eq_some_iff.1 hk
  rcases List.eq_nil_or_concat t.attempts with hnil | ⟨past, last, ht⟩
  · simp [hnil] at hlt
  · rw [List.concat_eq_append] at ht
    by_cases hask : ask = .connect
    · subst hask
      exact ⟨[], by rw [List.append_nil, note, List.getElem?_append_left hlt, hk]⟩
    · -- only the last attempt grows
      rw [note_attempts ht hask]
      rw [ht, List.getElem?_append] at hk
      rw [List.getElem?_append]
      split at hk
      · next hpast => exact ⟨[], by rw [if_pos hpast, hk, List.append_nil]⟩
      · next hlast =>
        rw [if_neg hlast]
        rw [List.getElem?_singleton] at hk ⊢
        split at hk
        · next hzero =>
          obtain rfl := Option.some.inj hk
          exact ⟨[ask], if_pos hzero⟩
        · contradiction

end Trial

/-- The link to a host whose broker fails where a script says so. -/
def StoreLink.faulty (faults : Faults) (link : StoreLink Host) : StoreLink Trial where
  connect name t :=
    match t.fault? faults .connect with
    | some why => (.error (.connectivity name why), t.note .connect)
    | none =>
      match link.connect name t.host with
      | (answer, host) => (answer, { t.note .connect with host })
  lookup r t :=
    match t.fault? faults (.lookup r) with
    | some why => (.error (.unavailable why), t.note (.lookup r))
    | none =>
      match link.lookup r t.host with
      | (answer, host) => (answer, { t.note (.lookup r) with host })
  create r t :=
    match t.fault? faults (.create r) with
    | some why => (.error (.unavailable why), t.note (.create r))
    | none =>
      match link.create r t.host with
      | (answer, host) => (answer, { t.note (.create r) with host })

namespace Pass

variable {faults : Faults} {link : StoreLink Host} {spec : TopologySpec} {t : Trial} {pass : Pass}
  {ask : Ask}

/-- The request that a pass makes next. -/
def ask? : Pass → Option Ask
  | .connecting => some .connect
  | .looking _ [] => none
  | .looking _ (r :: _) => some (.lookup r)
  | .creating _ r _ => some (.create r)

/-- A request that fails ends the pass, and the host is as it was. -/
lemma step_faulty_of_some {why : String} (hask : pass.ask? = some ask)
    (hfault : t.fault? faults ask = some why) :
    ∃ e, pass.step (link.faulty faults) spec t = (.done (.error e), t.note ask) := by
  rcases pass with _ | ⟨finished, _ | ⟨r, left⟩⟩ | ⟨finished, r, left⟩
  · obtain rfl := Option.some.inj hask
    exact ⟨.connectivity setupConnection why, by simp only [step, StoreLink.faulty, hfault]⟩
  · contradiction
  · obtain rfl := Option.some.inj hask
    exact ⟨.topology r.name (StoreError.unavailable why).message, by
      simp only [step, StoreLink.faulty, hfault, Resource.afterLookup]⟩
  · obtain rfl := Option.some.inj hask
    exact ⟨.topology r.name (StoreError.unavailable why).message, by
      simp only [step, StoreLink.faulty, hfault, Resource.afterCreate]⟩

/-- Any other step is one over the host. -/
lemma step_faulty_of_none (hask : pass.ask? = some ask) (hfault : t.fault? faults ask = none) :
    pass.step (link.faulty faults) spec t
      = ((pass.step link spec t.host).1,
        { t.note ask with host := (pass.step link spec t.host).2 }) := by
  rcases pass with _ | ⟨finished, _ | ⟨r, left⟩⟩ | ⟨finished, r, left⟩
  · obtain rfl := Option.some.inj hask
    rcases hanswer : link.connect setupConnection t.host with ⟨_ | _, host⟩ <;>
      simp only [step, StoreLink.faulty, hfault, hanswer]
  · contradiction
  · obtain rfl := Option.some.inj hask
    simp only [step, StoreLink.faulty, hfault]
    split <;> rfl
  · obtain rfl := Option.some.inj hask
    simp only [step, StoreLink.faulty, hfault]
    split <;> rfl

/-- In each step something is asked, or everything was. -/
lemma step_faulty_attempts (pass : Pass) (t : Trial) :
    (pass.step (link.faulty faults) spec t).2.attempts
      = (pass.ask?.elim t t.note).attempts := by
  cases hask : pass.ask? with
  | none =>
    rcases pass with _ | ⟨finished, _ | ⟨r, left⟩⟩ | ⟨finished, r, left⟩
    · contradiction
    · rfl
    · contradiction
    · contradiction
  | some ask =>
    cases hfault : t.fault? faults ask with
    | some why =>
      obtain ⟨e, hstep⟩ : ∃ e, pass.step (link.faulty faults) spec t
          = (.done (.error e), t.note ask) := step_faulty_of_some hask hfault
      rw [hstep]
      rfl
    | none =>
      rw [step_faulty_of_none hask hfault]
      rfl

end Pass

/-! ### How far an attempt came -/

/-- What is asked for resources of which each is there in the end. -/
def Done.requests (done : Done) : List Ask :=
  done.flatMap fun
    | (r, .existed) => [.lookup r]
    | (r, .created) => [.lookup r, .create r]

namespace Attempt

/-- No request failed. -/
def Unharmed (fails : ℕ → Option String) (asked : List Ask) : Prop :=
  ∀ i < asked.length, fails i = none

/-- An attempt goes on: it connected, and each of the first resources is there. -/
inductive Going (s : Store) (resources : List Resource) (fails : ℕ → Option String) :
    Done → List Ask → Pass → Prop
  /-- It comes to the next resource. -/
  | looking {done : Done} {left : List Resource} (hleft : resources = done.map Prod.fst ++ left)
      (hclean : Unharmed fails (.connect :: done.requests)) :
      Going s resources fails done (.connect :: done.requests) (.looking done.report left)
  /-- It did not find a resource. -/
  | creating {done : Done} {r : Resource} {left : List Resource}
      (hleft : resources = done.map Prod.fst ++ r :: left)
      (hfree : s.spec? r.backingName = none)
      (hclean : Unharmed fails (.connect :: done.requests ++ [.lookup r])) :
      Going s resources fails done (.connect :: done.requests ++ [.lookup r])
        (.creating done.report r left)

/-- An attempt fell: it went on until a request failed, which is the last. -/
inductive Fell (resources : List Resource) (fails : ℕ → Option String) : Done → List Ask → Prop
  /-- It was not let in. -/
  | refused (hfails : fails 0 ≠ none) : Fell resources fails [] [.connect]
  /-- A resource could not be looked up. -/
  | unanswered {done : Done} {r : Resource} {left : List Resource}
      (hleft : resources = done.map Prod.fst ++ r :: left)
      (hclean : Unharmed fails (.connect :: done.requests))
      (hfails : fails (Ask.connect :: done.requests).length ≠ none) :
      Fell resources fails done (.connect :: done.requests ++ [.lookup r])
  /-- A resource could not be created. -/
  | uncreated {done : Done} {r : Resource} {left : List Resource}
      (hleft : resources = done.map Prod.fst ++ r :: left)
      (hclean : Unharmed fails (.connect :: done.requests ++ [.lookup r]))
      (hfails : fails (Ask.connect :: done.requests ++ [Ask.lookup r]).length ≠ none) :
      Fell resources fails done (.connect :: done.requests ++ [.lookup r] ++ [.create r])

variable {s : Store} {resources : List Resource} {fails : ℕ → Option String} {done : Done}
  {asked : List Ask} {pass : Pass} {ask : Ask} {r : Resource}

lemma Unharmed.concat (hclean : Unharmed fails asked) (h : fails asked.length = none) (ask : Ask) :
    Unharmed fails (asked ++ [ask]) := by
  intro i hi
  rw [List.length_append, List.length_singleton] at hi
  rcases Nat.lt_succ_iff_lt_or_eq.1 hi with hlt | rfl
  · exact hclean i hlt
  · exact h

lemma not_unharmed_concat (h : fails asked.length ≠ none) : ¬ Unharmed fails (asked ++ [ask]) :=
  fun hclean => h (hclean _ (by simp))

lemma requests_concat (done : Done) (r : Resource) (e : Ensured) :
    Done.requests (done ++ [(r, e)]) = done.requests ++ Done.requests [(r, e)] := by
  simp [Done.requests]

namespace Going

lemma did (h : Going s resources fails done asked pass) :
    Provisioner.Did resources done (.working pass) := by
  cases h with
  | looking hleft _ => exact .looking hleft
  | creating hleft _ _ => exact .creating hleft

/-- Once no resource is left, it did something for each. -/
lemma resources_eq {report : EnsuredList}
    (h : Going s resources fails done asked (.looking report [])) :
    resources = done.map Prod.fst := by
  cases h with
  | looking hleft _ => simpa using hleft

lemma unharmed (h : Going s resources fails done asked pass) : Unharmed fails asked := by
  cases h with
  | looking _ hclean => exact hclean
  | creating _ _ hclean => exact hclean

/-- The connection is behind it. -/
lemma ask_ne_connect (h : Going s resources fails done asked pass) (hask : pass.ask? = some ask) :
    ask ≠ .connect := by
  rintro rfl
  cases h with
  | @looking left _ _ => cases left <;> simp [Pass.ask?] at hask
  | creating _ _ _ => simp [Pass.ask?] at hask

/-- When the next request fails, it fell. -/
lemma fell (h : Going s resources fails done asked pass) (hask : pass.ask? = some ask)
    (hfails : fails asked.length ≠ none) : Fell resources fails done (asked ++ [ask]) := by
  cases h with
  | @looking left hleft hclean =>
    cases left with
    | nil => contradiction
    | cons r left =>
      obtain rfl := Option.some.inj hask
      exact .unanswered hleft hclean hfails
  | creating hleft _ hclean =>
    obtain rfl := Option.some.inj hask
    exact .uncreated hleft hclean hfails

end Going

lemma Fell.not_unharmed (h : Fell resources fails done asked) : ¬ Unharmed fails asked := by
  cases h with
  | refused hfails => exact fun hclean => hfails (hclean 0 (by simp))
  | unanswered _ _ hfails => exact not_unharmed_concat hfails
  | uncreated _ _ hfails => exact not_unharmed_concat hfails

/-! ### What was asked for -/

/-- A request was made and did not fail. -/
def Served (fails : ℕ → Option String) (asked : List Ask) (ask : Ask) : Prop :=
  ∃ i, asked[i]? = some ask ∧ fails i = none

lemma Unharmed.served_iff (hclean : Unharmed fails asked) :
    Served fails asked ask ↔ ask ∈ asked := by
  constructor
  · rintro ⟨i, hi, -⟩
    exact List.mem_iff_getElem?.2 ⟨i, hi⟩
  · intro hmem
    obtain ⟨i, hi⟩ := List.mem_iff_getElem?.1 hmem
    obtain ⟨hlt, -⟩ := List.getElem?_eq_some_iff.1 hi
    exact ⟨i, hi, hclean i hlt⟩

/-- The request that failed is not among those that were served. -/
lemma Unharmed.served_concat_iff {last : Ask} (hclean : Unharmed fails asked)
    (hfails : fails asked.length ≠ none) : Served fails (asked ++ [last]) ask ↔ ask ∈ asked := by
  rw [← hclean.served_iff]
  constructor
  · rintro ⟨i, hi, hnone⟩
    have hne : i ≠ asked.length := by
      rintro rfl
      exact hfails hnone
    obtain ⟨hlt, -⟩ := List.getElem?_eq_some_iff.1 hi
    rw [List.length_append, List.length_singleton] at hlt
    rw [List.getElem?_append_left (by omega)] at hi
    exact ⟨i, hi, hnone⟩
  · rintro ⟨i, hi, hnone⟩
    obtain ⟨hlt, -⟩ := List.getElem?_eq_some_iff.1 hi
    exact ⟨i, by rw [List.getElem?_append_left hlt, hi], hnone⟩

@[simp] lemma create_mem_requests : Ask.create r ∈ done.requests ↔ (r, .created) ∈ done := by
  rw [Done.requests, List.mem_flatMap]
  constructor
  · rintro ⟨⟨r', _ | _⟩, hmem, hask⟩
    · simp at hask
    · obtain rfl : r = r' := by simpa using hask
      exact hmem
  · exact fun hmem => ⟨_, hmem, by simp⟩

@[simp] lemma connect_notMem_requests : Ask.connect ∉ done.requests := by
  rw [Done.requests, List.mem_flatMap]
  rintro ⟨⟨r, _ | _⟩, -, hask⟩ <;> simp at hask

lemma Going.created_iff (h : Going s resources fails done asked pass) :
    Served fails asked (.create r) ↔ (r, .created) ∈ done := by
  rw [h.unharmed.served_iff]
  cases h with
  | looking _ _ => simp
  | creating _ _ _ => simp

lemma Fell.created_iff (h : Fell resources fails done asked) :
    Served fails asked (.create r) ↔ (r, .created) ∈ done := by
  cases h with
  | refused hfails =>
    have hclean : Unharmed fails [] := fun i hi => absurd hi (Nat.not_lt_zero i)
    simpa using hclean.served_concat_iff hfails
  | unanswered _ hclean hfails =>
    rw [hclean.served_concat_iff hfails]
    simp
  | uncreated _ hclean hfails =>
    rw [hclean.served_concat_iff hfails]
    simp

lemma Going.count_connect (h : Going s resources fails done asked pass) :
    asked.count .connect = 1 := by
  cases h with
  | looking _ _ => simp [List.count_eq_zero]
  | creating _ _ _ => simp [List.count_eq_zero]

lemma Fell.count_connect (h : Fell resources fails done asked) : asked.count .connect = 1 := by
  cases h with
  | refused _ => rfl
  | unanswered _ _ _ => simp [List.count_eq_zero]
  | uncreated _ _ _ => simp [List.count_eq_zero]

/-- What an attempt worked on is a first part of the resources, whatever became of it. -/
lemma Fell.isPrefix (h : Fell resources fails done asked) : done.map Prod.fst <+: resources := by
  cases h with
  | refused _ => exact List.nil_prefix
  | unanswered hleft _ _ => exact ⟨_, hleft.symm⟩
  | uncreated hleft _ _ => exact ⟨_, hleft.symm⟩

/-- An attempt stands where it must after what it did; it is the one after those of the past. -/
inductive Standing (s : Store) (resources : List Resource) (fails : ℕ → Option String)
    (past attempts : List (List Ask)) : Done → Pass → Prop
  /-- It is about to begin. -/
  | connecting (ht : attempts = past) : Standing s resources fails past attempts [] .connecting
  /-- It goes on. -/
  | going {done : Done} {asked : List Ask} {pass : Pass} (ht : attempts = past ++ [asked])
      (hgoing : Going s resources fails done asked pass) :
      Standing s resources fails past attempts done pass

/-- What a step of an attempt came to, in the store as it is then. -/
inductive Went (s : Store) (resources : List Resource) (fails : ℕ → Option String) :
    Done → List Ask → Progress Pass (Outcome Error EnsuredList) → Prop
  /-- It goes on. -/
  | on {done : Done} {asked : List Ask} {pass : Pass}
      (hgoing : Going s resources fails done asked pass) :
      Went s resources fails done asked (.next pass)
  /-- It came through. -/
  | through {done : Done} {asked : List Ask}
      (hgoing : Going s resources fails done asked (.looking done.report [])) :
      Went s resources fails done asked (.done (.ok done.report))
  /-- It fell. -/
  | fell {done : Done} {asked : List Ask} {e : Error} (hfell : Fell resources fails done asked) :
      Went s resources fails done asked (.done (.error e))

variable {url : String} {spec : TopologySpec} {faults : Faults} {past attempts : List (List Ask)}
  {t : Trial}

lemma Standing.did (h : Standing s resources fails past attempts done pass) :
    Provisioner.Did resources done (.working pass) := by
  cases h with
  | connecting _ => exact .connecting
  | going _ hgoing => exact hgoing.did

lemma Standing.length_le (h : Standing s resources fails past attempts done pass) :
    attempts.length ≤ past.length + 1 := by
  cases h with
  | connecting ht => rw [ht]; exact Nat.le_succ _
  | going ht _ => rw [ht, List.length_append, List.length_singleton]

/-- A connection brings an attempt to the first resource. -/
lemma went_connect {s s' : Store} {done' : Done}
    {progress : Progress Pass (Outcome Error EnsuredList)} (hfails : fails 0 = none)
    (hgoes : Provisioner.Goes spec s s' [] .connecting done' progress) :
    Provisioner.Effect s s' [] done' ∧
      Went s' spec.resources fails done' [.connect] progress := by
  have hclean : Unharmed fails (.connect :: Done.requests []) := by
    intro i hi
    obtain rfl : i = 0 := Nat.lt_one_iff.1 hi
    exact hfails
  cases hgoes with
  | connected hsame => exact ⟨.nothing hsame, .on (.looking rfl hclean)⟩

/-- A request that does not fail brings an attempt further. -/
lemma Going.went {s s' : Store} {done' : Done}
    {progress : Progress Pass (Outcome Error EnsuredList)}
    (hgoing : Going s spec.resources fails done asked pass) (hask : pass.ask? = some ask)
    (hfails : fails asked.length = none)
    (hgoes : Provisioner.Goes spec s s' done pass done' progress) :
    Provisioner.Effect s s' done done' ∧
      Went s' spec.resources fails done' (asked ++ [ask]) progress := by
  have hclean : Unharmed fails (asked ++ [ask]) := hgoing.unharmed.concat hfails ask
  cases hgoes with
  | connected _ => cases hgoing
  | through _ _ => contradiction
  | @missing _ r left hleft hfree hsame =>
    obtain rfl := Option.some.inj hask
    cases hgoing
    -- looking a resource up does not create it
    have hfree' : s'.spec? r.backingName = none := by rw [hsame, hfree]
    exact ⟨.nothing hsame, .on (.creating hleft hfree' hclean)⟩
  | @found done r left hleft hheld hsame =>
    obtain rfl := Option.some.inj hask
    cases hgoing
    -- with its answer, what was asked is again what is asked for resources that are there
    have hrequests : Ask.connect :: done.requests ++ [Ask.lookup r]
        = .connect :: Done.requests (done ++ [(r, .existed)]) := by
      rw [requests_concat]
      rfl
    rw [hrequests] at hclean ⊢
    exact ⟨.found hheld hsame, .on (.looking (by simp [hleft]) hclean)⟩
  | @made done r left hleft hfree hmade =>
    obtain rfl := Option.some.inj hask
    cases hgoing
    have hrequests : Ask.connect :: done.requests ++ [Ask.lookup r] ++ [Ask.create r]
        = .connect :: Done.requests (done ++ [(r, .created)]) := by
      rw [requests_concat, List.append_assoc]
      rfl
    rw [hrequests] at hclean ⊢
    exact ⟨.made hfree hmade, .on (.looking (by simp [hleft]) hclean)⟩
  | overtaken _ hheld _ =>
    -- a resource that was not found is still not there, as nobody else works on the store
    cases hgoing with
    | creating _ hfree _ => exact absurd hfree hheld

/-- An attempt falls with a request that fails. -/
lemma Standing.fell {why : String}
    (h : Standing (t.host.store url) spec.resources (faults past.length) past t.attempts done pass)
    (hask : pass.ask? = some ask) (hfault : t.fault? faults ask = some why) :
    ∃ asked', (t.note ask).attempts = past ++ [asked'] ∧
      Fell spec.resources (faults past.length) done asked' := by
  cases h with
  | connecting ht =>
    obtain rfl := Option.some.inj hask
    have hfails : faults past.length 0 = some why := by rw [← ht]; exact hfault
    exact ⟨[.connect], by rw [← ht]; rfl, .refused (by simp [hfails])⟩
  | @going _ asked _ ht hgoing =>
    have hne := hgoing.ask_ne_connect hask
    have hfails : faults past.length asked.length = some why :=
      (Trial.fault?_eq ht hne).symm.trans hfault
    exact ⟨asked ++ [ask], Trial.note_attempts ht hne, hgoing.fell hask (by simp [hfails])⟩

/-- An attempt is brought further by a request that does not fail. -/
lemma Standing.went {s' : Store} {done' : Done}
    {progress : Progress Pass (Outcome Error EnsuredList)}
    (h : Standing (t.host.store url) spec.resources (faults past.length) past t.attempts done pass)
    (hask : pass.ask? = some ask) (hfault : t.fault? faults ask = none)
    (hgoes : Provisioner.Goes spec (t.host.store url) s' done pass done' progress) :
    ∃ asked', (t.note ask).attempts = past ++ [asked'] ∧
      Provisioner.Effect (t.host.store url) s' done done' ∧
      Went s' spec.resources (faults past.length) done' asked' progress := by
  cases h with
  | connecting ht =>
    obtain rfl := Option.some.inj hask
    have hfails : faults past.length 0 = none := by rw [← ht]; exact hfault
    exact ⟨[.connect], by rw [← ht]; rfl, went_connect hfails hgoes⟩
  | @going _ asked _ ht hgoing =>
    have hne := hgoing.ask_ne_connect hask
    have hfails : faults past.length asked.length = none :=
      (Trial.fault?_eq ht hne).symm.trans hfault
    exact ⟨asked ++ [ask], Trial.note_attempts ht hne, hgoing.went hask hfails hgoes⟩

/-- **What a step of an attempt comes to.**  It fails with the request that the script says;
otherwise the attempt goes on or came through, and the store has what it did. -/
theorem Standing.step
    (h : Standing (t.host.store url) spec.resources (faults past.length) past t.attempts done pass)
    (hs : (t.host.store url).streams.Sorted)
    (hages : ∀ name held, (t.host.store url).spec? name = some held →
      held.AgeFits t.host.wallClock) :
    let after := pass.step ((StoreLink.toHost url true).faulty faults) spec t
    (after.2.host.store url).streams.Sorted ∧
      ∃ done' asked', after.2.attempts = past ++ [asked'] ∧
        Provisioner.Effect (t.host.store url) (after.2.host.store url) done done' ∧
        Went (after.2.host.store url) spec.resources (faults past.length) done' asked' after.1 := by
  intro after
  cases hask : pass.ask? with
  | none =>
    -- nothing is left to be asked
    cases h with
    | connecting _ => contradiction
    | going ht hgoing =>
      cases hgoing with
      | creating _ _ _ => contradiction
      | @looking left hleft hclean =>
        cases left with
        | cons r left => contradiction
        | nil => exact ⟨hs, done, _, ht, .nothing fun _ => rfl, .through (.looking hleft hclean)⟩
  | some ask =>
    cases hfault : t.fault? faults ask with
    | some why =>
      -- the host is not reached
      obtain ⟨e, hafter⟩ : ∃ e, after = (.done (.error e), t.note ask) :=
        Pass.step_faulty_of_some hask hfault
      obtain ⟨asked', hattempts, hfell⟩ := h.fell hask hfault
      rw [hafter, Trial.note_host]
      exact ⟨hs, done, asked', hattempts, .nothing fun _ => rfl, .fell hfell⟩
    | none =>
      -- a step over the host, and the request noted down
      have hafter : after = ((pass.step (.toHost url true) spec t.host).1,
          { t.note ask with host := (pass.step (.toHost url true) spec t.host).2 }) :=
        Pass.step_faulty_of_none hask hfault
      obtain ⟨hsorted, done', hgoes⟩ := Provisioner.step_goes hs hages h.did
      obtain ⟨asked', hattempts, hwent⟩ := h.went hask hfault hgoes
      rw [hafter]
      exact ⟨hsorted, done', asked', hattempts, hwent⟩

end Attempt

end EdgeNode
