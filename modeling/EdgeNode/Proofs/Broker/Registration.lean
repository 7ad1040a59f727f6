import EdgeNode.Proofs.Broker.Adapter
import EdgeNode.Proofs.Pool.Changes
import EdgeNode.Proofs.Pool.Tasks
/-!
# The messages of a registration adapter

Between the bus and the store of an adapter are a mailbox that forgets its oldest message when it is
full, a task that filters, a queue of limited length, and a number of workers.  `Books` says of
every message that was published on the bus since the adapter was started where it went: it was
overwritten in the mailbox, passed over because it is not on the topic, or let in; and what was let
in was published to the store, in order, or is still on its way.

Messages are lost on their way only when the last worker is gone.  A worker goes when its
publication crashes, which takes a stream with an age limit that cannot be applied.
-/

namespace EdgeNode

/-! ### The books -/

namespace Registering

open RegistrationAdapter (request workers)

/-- What happens around a running adapter. -/
inductive Event where
  /-- A message is published on the bus, and there is room for it in the mailbox. -/
  | publishes (m : CoreMessage)
  /-- A message is published on the bus, and the mailbox is full. -/
  | overruns (m : CoreMessage)
  /-- The receiving task takes a step. -/
  | receives
  /-- A worker takes a step. -/
  | works
  /-- Somebody else has a request to the store. -/
  | asks (now : Nat) (r : Store.Request)
  /-- Something else happens. -/
  | goesOn
deriving DecidableEq, Repr

/-- The messages that were published on the bus. -/
def sent (events : List Event) : List CoreMessage :=
  events.filterMap fun
    | .publishes m => some m
    | .overruns m => some m
    | _ => none

/-- How many of them met a full mailbox. -/
def overruns (events : List Event) : Nat :=
  events.countP fun
    | .overruns _ => true
    | _ => false

/-- The requests of others to the store. -/
def asked (events : List Event) : List (Nat × Store.Request) :=
  events.filterMap fun
    | .asks now r => some (now, r)
    | _ => none

/-- How a message left the mailbox. -/
inductive Reading where
  /-- Unread, to make room for another. -/
  | overwritten
  /-- It was read and is not on the topic. -/
  | passedOver
  /-- It was read and is on the topic. -/
  | letIn
deriving DecidableEq, Repr

/-- A request that a store has served. -/
structure Served where
  /-- When. -/
  now : Nat
  /-- The request. -/
  request : Store.Request
  /-- The message that an adapter published with it. -/
  message : Option CoreMessage := none
deriving DecidableEq, Repr

/-- The request without the one who had it. -/
def Served.entry (e : Served) : Nat × Store.Request :=
  (e.now, e.request)

/-- How many publications of an adapter crashed. -/
def crashes (s : Store) : List Served → Nat
  | [] => 0
  | e :: rest =>
    (if e.message.isSome ∧ s.answer e.now e.request = .crash then 1 else 0)
      + crashes (s.serve e.now e.request) rest

/-- Where the messages that were published on a bus went. -/
structure Books where
  /-- How messages left the mailbox. -/
  readings : List (CoreMessage × Reading) := []
  /-- The requests that the store has served. -/
  history : List Served := []
  /-- Messages that were let in and are lost. -/
  dropped : List CoreMessage := []
  /-- Messages that nobody read. -/
  unheard : List CoreMessage := []

/-- The messages that were let in. -/
def Books.letIn (b : Books) : List CoreMessage :=
  (b.readings.filter fun e => e.2 = .letIn).map Prod.fst

/-- The messages that were published to the store. -/
def Books.published (b : Books) : List CoreMessage :=
  b.history.filterMap Served.message

/-- The requests that others had. -/
def Books.others (b : Books) : List (Nat × Store.Request) :=
  (b.history.filter fun e => e.message.isNone).map Served.entry

/-- The books of an adapter are right about a course of events. -/
structure Balanced (config : AdapterConfig) (start : Store) (events : List Event) (h : Host)
    (a : RegistrationAdapter) (b : Books) : Prop where
  config_eq : a.config = config
  listens : a.Listens h
  /-- Every message has left the mailbox, is in it, or came when nobody listened any more. -/
  read : sent events = b.readings.map Prod.fst ++ a.unread h ++ b.unheard
  /-- What is read is let in if it is on the topic. -/
  topic : ∀ e ∈ b.readings, e.2 ≠ .overwritten →
    (e.2 = .letIn ↔ Subject.covers config.ingestTopic e.1.subject)
  /-- A message is overwritten for every other that meets a full mailbox. -/
  overwritten : b.readings.countP (fun e => e.2 = .overwritten) = overruns events
  /-- What was let in was published, in order, or lost, or it is in the queue or in hand. -/
  letIn : b.letIn = b.published ++ b.dropped ++ a.queue ++ a.held.toList
  /-- What the adapter publishes are these messages, under the subjects of their senders. -/
  own : ∀ e ∈ b.history, ∀ m, e.message = some m → e.request = request config m
  /-- All other requests are those of others. -/
  others : b.others = asked events
  /-- The streams are what the requests have made of them. -/
  streams : a.streams h = (start.serveAll (b.history.map Served.entry)).streams
  crashed : a.crashed = crashes start b.history
  /-- Messages are lost when the last worker is gone. -/
  lost : b.dropped ≠ [] ∨ b.unheard ≠ [] → a.isClosed
  heard : b.unheard ≠ [] → a.mailbox? h = none

variable {config : AdapterConfig} {start : Store} {events : List Event} {h h' : Host}
  {a a' : RegistrationAdapter} {b : Books} {t : StopToken} {m : CoreMessage}

lemma sent_concat (events : List Event) (e : Event) :
    sent (events ++ [e]) = sent events ++ sent [e] :=
  List.filterMap_append

lemma asked_concat (events : List Event) (e : Event) :
    asked (events ++ [e]) = asked events ++ asked [e] :=
  List.filterMap_append

lemma overruns_concat (events : List Event) (e : Event) :
    overruns (events ++ [e]) = overruns events + overruns [e] :=
  List.countP_append

lemma crashes_concat (s : Store) (l : List Served) (e : Served) :
    crashes s (l ++ [e]) = crashes s l
      + if e.message.isSome ∧ (s.serveAll (l.map Served.entry)).answer e.now e.request = .crash
        then 1 else 0 := by
  induction l generalizing s with
  | nil => simp [crashes]
  | cons first l ih =>
    rw [List.cons_append, crashes, ih, crashes, Nat.add_assoc]
    rfl

namespace Balanced

/-- Nobody leaves while a message is in hand. -/
lemma unheard_of_mailbox? (hb : Balanced config start events h a b) {box : Mailbox}
    (hbox : a.mailbox? h = some box) : b.unheard = [] := by
  by_contra hunheard
  rw [hb.heard hunheard] at hbox
  contradiction

/-- Something happens that is none of the adapter's business. -/
lemma silent (hb : Balanced config start events h a b) {e : Event} (hsent : sent [e] = [])
    (hoverruns : overruns [e] = 0) (hasked : asked [e] = []) (hlistens : a.Listens h')
    (hunread : a.unread h' = a.unread h) (hstreams : a.streams h' = a.streams h)
    (hgone : a.mailbox? h = none → a.mailbox? h' = none) :
    Balanced config start (events ++ [e]) h' a b where
  config_eq := hb.config_eq
  listens := hlistens
  read := by rw [sent_concat, hsent, List.append_nil, hunread, hb.read]
  topic := hb.topic
  overwritten := by rw [overruns_concat, hoverruns, hb.overwritten, Nat.add_zero]
  letIn := hb.letIn
  own := hb.own
  others := by rw [asked_concat, hasked, List.append_nil, hb.others]
  streams := by rw [hstreams, hb.streams]
  crashed := hb.crashed
  lost := hb.lost
  heard hunheard := hgone (hb.heard hunheard)

/-! ### The receiving task -/

/-- The oldest message is read. -/
lemma reads (hb : Balanced config start events h a b) {r : Reading}
    (hunread : a.unread h = m :: a.unread h') (hr : r ≠ .overwritten)
    (htopic : r = .letIn ↔ Subject.covers config.ingestTopic m.subject) :
    b.unheard = [] ∧
      sent (events ++ [.receives])
        = (b.readings ++ [(m, r)]).map Prod.fst ++ a.unread h' ++ b.unheard ∧
      (∀ e ∈ b.readings ++ [(m, r)], e.2 ≠ .overwritten →
        (e.2 = .letIn ↔ Subject.covers config.ingestTopic e.1.subject)) ∧
      (b.readings ++ [(m, r)]).countP (fun e => e.2 = .overwritten)
        = overruns (events ++ [.receives]) := by
  refine ⟨?_, ?_, ?_, ?_⟩
  · by_contra hunheard
    rw [RegistrationAdapter.unread_of_mailbox?_eq_none (hb.heard hunheard)] at hunread
    contradiction
  · rw [sent_concat, hb.read, hunread]
    simp [sent]
  · intro e he
    rcases List.mem_append.1 he with he | he
    · exact hb.topic e he
    · obtain rfl := List.mem_singleton.1 he
      exact fun _ => htopic
  · rw [overruns_concat, ← hb.overwritten]
    simp [hr, overruns]

lemma receives (hb : Balanced config start events h a b)
    (hreceived : RegistrationAdapter.Received h a h' a') (hlistens : a'.Listens h')
    (hstreams : a.streams h' = a.streams h) :
    ∃ b', Balanced config start (events ++ [.receives]) h' a' b' := by
  have hothers : asked (events ++ [.receives]) = asked events := by
    rw [asked_concat]
    simp [asked]
  cases hreceived with
  | nothing hunread hgone =>
    exact ⟨b, hb.silent rfl rfl rfl hlistens hunread hstreams hgone⟩
  | @passesOver _ m hunread htopic =>
    rw [hb.config_eq] at htopic
    obtain ⟨hunheard, hread, htopics, hcount⟩ :=
      hb.reads (r := .passedOver) hunread (by simp) (by simp [htopic])
    refine ⟨{ b with readings := b.readings ++ [(m, .passedOver)] }, hb.config_eq, hlistens, hread,
      htopics, hcount, ?_, hb.own, hothers ▸ hb.others, hstreams ▸ hb.streams, hb.crashed, hb.lost,
      fun hne => absurd hunheard hne⟩
    have hletIn := hb.letIn
    simpa [Books.letIn, Books.published] using hletIn
  | @letsIn _ m hheld hunread htopic =>
    rw [hb.config_eq] at htopic
    obtain ⟨hunheard, hread, htopics, hcount⟩ :=
      hb.reads (r := .letIn) hunread (by simp) (by simp [htopic])
    refine ⟨{ b with readings := b.readings ++ [(m, .letIn)] }, hb.config_eq, hlistens, hread,
      htopics, hcount, ?_, hb.own, hothers ▸ hb.others, hstreams ▸ hb.streams, hb.crashed, hb.lost,
      fun hne => absurd hunheard hne⟩
    have hletIn := hb.letIn
    rw [hheld, Option.toList_none, List.append_nil] at hletIn
    simp only [Books.letIn, List.filter_append, List.map_append] at hletIn ⊢
    rw [hletIn]
    simp [Books.published]
  | @enqueues m hheld hopen =>
    have hquiet : Balanced config start (events ++ [.receives]) h a b :=
      hb.silent rfl rfl rfl hb.listens rfl rfl id
    refine ⟨b, { hquiet with config_eq := hb.config_eq, listens := hlistens, letIn := ?_ }⟩
    rw [hb.letIn, hheld]
    simp
  | @leaves _ m hheld hclosed hgone =>
    have hunheard : b.unheard = [] := by
      by_contra hunheard
      have hnone := (hb.listens.gone (hb.heard hunheard)).2
      rw [hheld] at hnone
      contradiction
    have hempty : a.queue = [] := hb.listens.closed hclosed
    have hnobody : ({ a with held := none } : RegistrationAdapter).unread h' = [] :=
      RegistrationAdapter.unread_of_mailbox?_eq_none hgone
    refine ⟨{ b with dropped := b.dropped ++ [m], unheard := a.unread h },
      hb.config_eq, hlistens, ?_, hb.topic, ?_, ?_, hb.own, hothers ▸ hb.others,
      hstreams ▸ hb.streams, hb.crashed, fun _ => hclosed, fun _ => hgone⟩
    · rw [sent_concat, hb.read, hunheard, hnobody]
      simp [sent]
    · rw [overruns_concat, ← hb.overwritten]
      simp [overruns]
    · have hletIn := hb.letIn
      rw [hheld, hempty] at hletIn
      simpa [hempty, Books.letIn, Books.published] using hletIn

/-! ### The workers -/

/-- The store serves a request. -/
lemma serves (hb : Balanced config start events h a b) {e : Served}
    (hserves : a.streams h' = ((h.store a.storeUrl).serve e.now e.request).streams) :
    a.streams h' = (start.serveAll ((b.history ++ [e]).map Served.entry)).streams := by
  rw [hserves, List.map_append, List.map_singleton, Served.entry, Store.serveAll_concat]
  exact Store.streams_serve_congr hb.streams _ _

lemma answer_request_congr {s s' : Store} (hsame : s.streams = s'.streams) (now : Nat) :
    s.answer now (request config m) = s'.answer now (request config m) := by
  rw [request, Store.answer, Store.answer, (Store.publish_congr hsame now _ _).1]

/-- A worker publishes the oldest message in the queue.  What becomes of the rest of the queue and
of the count of crashes depends on the answer. -/
lemma publishes (hb : Balanced config start events h a b) {rest dropped queue : List CoreMessage}
    {crashed : Nat} (hqueue : a.queue = m :: rest)
    (hserves : a.streams h'
      = ((h.store a.storeUrl).serve h.wallClock (request a.config m)).streams)
    (hcrashed : crashed = a.crashed
      + if (h.store a.storeUrl).answer h.wallClock (request a.config m) = .crash then 1 else 0)
    (hrest : dropped ++ queue = rest) (ha' : a' = { a with queue, crashed })
    (hlost : dropped ≠ [] → a'.isClosed) (hlistens : a'.Listens h')
    (hunread : a.unread h' = a.unread h) :
    Balanced config start (events ++ [.works]) h' a'
      { b with
        history := b.history ++ [⟨h.wallClock, request config m, some m⟩]
        dropped } := by
  have hopen : a.isClosed = false := by
    by_contra hclosed
    simp [hb.listens.closed (by simpa using hclosed)] at hqueue
  obtain ⟨hdropped, hunheard⟩ : b.dropped = [] ∧ b.unheard = [] := by
    by_contra hlost
    rw [not_and_or] at hlost
    simp [hb.lost hlost] at hopen
  rw [hb.config_eq] at hserves hcrashed
  have hsame : a'.unread h' = a.unread h' ∧ a'.streams h' = a.streams h' := by
    subst ha'
    exact ⟨rfl, rfl⟩
  refine
    { config_eq := ?_, listens := hlistens, read := ?_, topic := hb.topic, overwritten := ?_,
      letIn := ?_, own := ?_, others := ?_, streams := hsame.2.trans (hb.serves hserves),
      crashed := ?_, lost := ?_, heard := fun hne => absurd hunheard hne }
  · rw [ha', hb.config_eq]
  · rw [sent_concat, hb.read, hsame.1, hunread]
    simp [sent]
  · rw [overruns_concat, hb.overwritten]
    rfl
  · have hletIn := hb.letIn
    rw [hdropped, hqueue, ← hrest] at hletIn
    simpa [ha', Books.letIn, Books.published] using hletIn
  · intro e he m' hm'
    rcases List.mem_append.1 he with he | he
    · exact hb.own e he m' hm'
    · obtain rfl := List.mem_singleton.1 he
      obtain rfl := Option.some.inj hm'
      rfl
  · rw [asked_concat, ← hb.others]
    simp [Books.others, asked]
  · rw [crashes_concat, ← hb.crashed, ha', hcrashed]
    dsimp only
    rw [answer_request_congr hb.streams, Option.isSome_some]
    simp
  · rintro (hne | hne)
    · exact hlost hne
    · exact absurd hunheard hne

lemma works (hb : Balanced config start events h a b)
    (hworked : RegistrationAdapter.Worked h a h' a') (hlistens : a'.Listens h')
    (hunread : a.unread h' = a.unread h) :
    ∃ b', Balanced config start (events ++ [.works]) h' a' b' := by
  cases hworked with
  | nothing hqueue => exact ⟨b, hb.silent rfl rfl rfl hlistens rfl rfl id⟩
  | @publishes _ m rest hqueue hserves hanswer =>
    refine ⟨_, hb.publishes hqueue hserves ?_ (List.nil_append rest) rfl ?_ hlistens hunread⟩
    · rw [if_neg hanswer, Nat.add_zero]
    · exact fun hne => absurd rfl hne
  | @crashes _ m rest hqueue hserves hanswer =>
    have hcount : a.crashed + 1 = a.crashed
        + if (h.store a.storeUrl).answer h.wallClock (request a.config m) = .crash
          then 1 else 0 := by
      rw [if_pos hanswer]
    rcases RegistrationAdapter.loseWorker_cases { a with queue := rest } with
      ⟨hlast, heq⟩ | ⟨-, heq⟩
    · -- the last worker: what is in the queue is lost
      refine ⟨_, hb.publishes hqueue hserves hcount (List.append_nil rest) heq ?_ hlistens hunread⟩
      rw [heq]
      exact fun _ => decide_eq_true hlast
    · exact ⟨_, hb.publishes hqueue hserves hcount (List.nil_append rest) heq
        (fun hne => absurd rfl hne) hlistens hunread⟩

/-! ### The bus and the others -/

/-- A message is published on the bus, and there is room for it, or nobody listens any more. -/
lemma hears (hb : Balanced config start events h a b) (m : CoreMessage)
    (hroom : (a.unread h).length < Mailbox.capacity) :
    ∃ b', Balanced config start (events ++ [.publishes m])
      (h.withStore a.busUrl fun s => s.publishCore m).2 a b' := by
  have hmailbox := RegistrationAdapter.mailbox?_publishCore (a := a) (h := h) m
  have hcount : b.readings.countP (fun e => e.2 = .overwritten)
      = overruns (events ++ [.publishes m]) := by
    rw [overruns_concat, hb.overwritten]
    rfl
  have hothers : b.others = asked (events ++ [.publishes m]) := by
    rw [asked_concat, hb.others]
    simp [asked]
  have hstreams := RegistrationAdapter.streams_publishCore (a := a) (h := h) m
  cases hbox : a.mailbox? h with
  | none =>
    rw [hbox, Option.map_none] at hmailbox
    refine ⟨{ b with unheard := b.unheard ++ [m] }, hb.config_eq, hb.listens.publishCore m, ?_,
      hb.topic, hcount, hb.letIn, hb.own, hothers, hstreams ▸ hb.streams, hb.crashed,
      fun _ => (hb.listens.gone hbox).1, fun _ => hmailbox⟩
    rw [sent_concat, hb.read, RegistrationAdapter.unread_of_mailbox?_eq_none hbox,
      RegistrationAdapter.unread_of_mailbox?_eq_none hmailbox]
    simp [sent]
  | some box =>
    rw [hbox, Option.map_some] at hmailbox
    have hunheard := hb.unheard_of_mailbox? hbox
    have hqueue := RegistrationAdapter.unread_of_mailbox? hbox
    refine ⟨b, hb.config_eq, hb.listens.publishCore m, ?_, hb.topic, hcount, hb.letIn, hb.own,
      hothers, hstreams ▸ hb.streams, hb.crashed, hb.lost, fun hne => absurd hunheard hne⟩
    rw [sent_concat, hb.read, RegistrationAdapter.unread_of_mailbox? hmailbox, hqueue,
      Mailbox.push_of_lt (hb.listens.sound box hbox) m (hqueue ▸ hroom), hunheard]
    simp [sent]

/-- A message is published on the bus, and the mailbox is full. -/
lemma forgets (hb : Balanced config start events h a b) (m : CoreMessage)
    (hfull : Mailbox.capacity ≤ (a.unread h).length) :
    ∃ b', Balanced config start (events ++ [.overruns m])
      (h.withStore a.busUrl fun s => s.publishCore m).2 a b' := by
  have hmailbox := RegistrationAdapter.mailbox?_publishCore (a := a) (h := h) m
  have hstreams := RegistrationAdapter.streams_publishCore (a := a) (h := h) m
  obtain ⟨oldest, rest, hunread⟩ : ∃ oldest rest, a.unread h = oldest :: rest := by
    refine List.exists_cons_of_ne_nil fun hnil => ?_
    rw [hnil] at hfull
    contradiction
  obtain ⟨box, hbox⟩ : ∃ box, a.mailbox? h = some box := by
    refine Option.ne_none_iff_exists'.1 fun hnone => ?_
    rw [RegistrationAdapter.unread_of_mailbox?_eq_none hnone] at hunread
    contradiction
  rw [hbox, Option.map_some] at hmailbox
  have hunheard := hb.unheard_of_mailbox? hbox
  have hqueue := RegistrationAdapter.unread_of_mailbox? hbox
  refine ⟨{ b with readings := b.readings ++ [(oldest, .overwritten)] }, hb.config_eq,
    hb.listens.publishCore m, ?_, ?_, ?_, ?_, hb.own, ?_, hstreams ▸ hb.streams, hb.crashed,
    hb.lost, fun hne => absurd hunheard hne⟩
  · rw [sent_concat, hb.read, RegistrationAdapter.unread_of_mailbox? hmailbox,
      Mailbox.push_of_le (hb.listens.sound box hbox) m (hqueue ▸ hfull), ← hqueue, hunread,
      hunheard]
    simp [sent]
  · intro e he hread
    rcases List.mem_append.1 he with he | he
    · exact hb.topic e he hread
    · obtain rfl := List.mem_singleton.1 he
      exact absurd rfl hread
  · rw [overruns_concat, ← hb.overwritten]
    simp [overruns]
  · have hletIn := hb.letIn
    simpa [Books.letIn, Books.published] using hletIn
  · rw [asked_concat, ← hb.others]
    simp [asked, Books.others]

/-- Somebody else has a request to the store. -/
lemma asks (hb : Balanced config start events h a b) (r : Store.Request) :
    ∃ b', Balanced config start (events ++ [.asks h.wallClock r])
      (h.withStore a.storeUrl fun s => ((), s.serve h.wallClock r)).2 a b' := by
  have hmailbox : a.mailbox? (h.withStore a.storeUrl fun s => ((), s.serve h.wallClock r)).2
      = a.mailbox? h :=
    RegistrationAdapter.mailbox?_withStore (fun s => Store.bus_serve s _ r) _
  have hserves : a.streams (h.withStore a.storeUrl fun s => ((), s.serve h.wallClock r)).2
      = ((h.store a.storeUrl).serve h.wallClock r).streams := by
    rw [RegistrationAdapter.streams, Host.store_withStore_self]
  refine ⟨{ b with history := b.history ++ [{ now := h.wallClock, request := r }] },
    { config_eq := hb.config_eq, listens := ?_, read := ?_, topic := hb.topic, overwritten := ?_,
      letIn := ?_, own := ?_, others := ?_, streams := hb.serves hserves, crashed := ?_,
      lost := hb.lost, heard := fun hne => hmailbox.trans (hb.heard hne) }⟩
  · exact ⟨fun box hbox => hb.listens.sound box (hmailbox ▸ hbox),
      fun hgone => hb.listens.gone (hmailbox ▸ hgone), hb.listens.closed⟩
  · rw [sent_concat, hb.read, RegistrationAdapter.unread_congr hmailbox]
    simp [sent]
  · rw [overruns_concat, hb.overwritten]
    rfl
  · have hletIn := hb.letIn
    simpa [Books.letIn, Books.published] using hletIn
  · intro e he m hm
    rcases List.mem_append.1 he with he | he
    · exact hb.own e he m hm
    · obtain rfl := List.mem_singleton.1 he
      contradiction
  · rw [asked_concat, ← hb.others]
    simp [Books.others, asked, Served.entry]
  · rw [crashes_concat, hb.crashed]
    simp

/-- Where no message met a full mailbox, an adapter with nothing left to do has published every
message on its topic, in order, and no other. -/
theorem published_of_idle (hb : Balanced config start events h a b)
    (hroom : overruns events = 0) (hopen : a.isClosed = false) (hunread : a.unread h = [])
    (hqueue : a.queue = []) (hheld : a.held = none) :
    b.published = (sent events).filter fun m => Subject.covers config.ingestTopic m.subject := by
  obtain ⟨hdropped, hunheard⟩ : b.dropped = [] ∧ b.unheard = [] := by
    by_contra hlost
    have hclosed := hb.lost (not_and_or.1 hlost)
    rw [hopen] at hclosed
    contradiction
  have hpublished : b.letIn = b.published := by
    rw [hb.letIn, hdropped, hqueue, hheld]
    simp
  have hread : sent events = b.readings.map Prod.fst := by
    rw [hb.read, hunread, hunheard]
    simp
  have hkept : ∀ e ∈ b.readings, e.2 ≠ .overwritten := by
    have hcount := hb.overwritten
    rw [hroom, List.countP_eq_zero] at hcount
    simpa using hcount
  rw [← hpublished, Books.letIn, hread, List.filter_map]
  refine congrArg (List.map Prod.fst) (List.filter_congr fun e he => ?_)
  rw [Function.comp_apply, Bool.eq_iff_iff, decide_eq_true_eq]
  exact hb.topic e he (hkept e he)

end Balanced

/-! ### Courses -/

/-- One event.  The two tasks take their turns in the pool; what else happens there leaves the
adapter, its mailbox and the streams that it publishes to as they are, and does not stop it. -/
inductive Step (id : Nat) (t : StopToken) : Pool → Event → Pool → Prop where
  | publishes {p : Pool} {a : RegistrationAdapter} {m : CoreMessage} (ha : p.adapters[id]? = some a)
      (hroom : (a.unread p.host).length < Mailbox.capacity) :
      Step id t p (.publishes m)
        { p with host := (p.host.withStore a.busUrl fun s => s.publishCore m).2 }
  | overruns {p : Pool} {a : RegistrationAdapter} {m : CoreMessage} (ha : p.adapters[id]? = some a)
      (hfull : Mailbox.capacity ≤ (a.unread p.host).length) :
      Step id t p (.overruns m)
        { p with host := (p.host.withStore a.busUrl fun s => s.publishCore m).2 }
  | receives {p : Pool} {task : Task} (htask : task ∈ p.tasks)
      (hactivity : task.activity = .receiving id) (htoken : task.token = t) :
      Step id t p .receives (p.turn task)
  | works {p : Pool} {task : Task} (htask : task ∈ p.tasks)
      (hactivity : task.activity = .working id) (htoken : task.token = t) :
      Step id t p .works (p.turn task)
  | asks {p : Pool} {a : RegistrationAdapter} {r : Store.Request} (ha : p.adapters[id]? = some a) :
      Step id t p (.asks p.host.wallClock r)
        { p with
          host := (p.host.withStore a.storeUrl fun s => ((), s.serve p.host.wallClock r)).2 }
  | goesOn {p p' : Pool} {a : RegistrationAdapter} (ha : p.adapters[id]? = some a)
      (ha' : p'.adapters[id]? = some a) (hopen : p'.isCancelled t = false)
      (hmailbox : a.mailbox? p'.host = a.mailbox? p.host)
      (hstreams : a.streams p'.host = a.streams p.host) : Step id t p .goesOn p'

/-- Events, one after another. -/
inductive Course (id : Nat) (t : StopToken) (p : Pool) : List Event → Pool → Prop where
  | start : Course id t p [] p
  | step {events : List Event} {e : Event} {p' p'' : Pool} (before : Course id t p events p')
      (last : Step id t p' e p'') : Course id t p (events ++ [e]) p''

/-! ### Turns of the two tasks -/

section Turns

variable {p : Pool} {task : Task} {id : Nat}

/-- A step that waits has done nothing, so that it does not matter that the turn forgets it. -/
lemma turn_of_stepAdapter (step : RegistrationAdapter →
      Progress Unit (Outcome Error Unit) × Host × RegistrationAdapter)
    (f : Unit → Activity) (ha : p.adapters[id]? = some a)
    (hstep : p.stepActivity task.token task.activity
      = ((p.stepAdapter id step).1.inside f, (p.stepAdapter id step).2))
    (hwait : ∀ wake, (step a).1 = .wait wake → (step a).2 = (p.host, a)) :
    (p.turn task).host = (step a).2.1 ∧ (p.turn task).adapters[id]? = some (step a).2.2 := by
  have hlt : id < p.adapters.length := by
    by_contra hge
    rw [List.getElem?_eq_none (Nat.not_lt.1 hge)] at ha
    contradiction
  have hafter : p.stepAdapter id step = ((step a).1,
      { p with host := (step a).2.1, adapters := p.adapters.set id (step a).2.2 }) := by
    simp only [Pool.stepAdapter, ha]
  rw [hafter] at hstep
  rw [Pool.turn, hstep]
  cases hprogress : (step a).1 with
  | next stage => exact ⟨rfl, List.getElem?_set_self hlt⟩
  | done result => exact ⟨rfl, List.getElem?_set_self hlt⟩
  | wait wake =>
    rw [hwait wake hprogress]
    exact ⟨rfl, ha⟩

lemma turn_receiving (ha : p.adapters[id]? = some a) (hactivity : task.activity = .receiving id) :
    (p.turn task).host = (a.receiveStep p.host task.token).2.1 ∧
      (p.turn task).adapters[id]? = some (a.receiveStep p.host task.token).2.2 := by
  refine turn_of_stepAdapter (fun a => a.receiveStep p.host task.token)
    (fun _ => .receiving id) ha ?_ ?_
  · rw [hactivity]
    rfl
  · exact fun _ => RegistrationAdapter.receiveStep_wait

lemma turn_working (ha : p.adapters[id]? = some a) (hactivity : task.activity = .working id) :
    (p.turn task).host = (a.workStep p.host task.token).2.1 ∧
      (p.turn task).adapters[id]? = some (a.workStep p.host task.token).2.2 := by
  refine turn_of_stepAdapter (fun a => a.workStep p.host task.token)
    (fun _ => .working id) ha ?_ ?_
  · rw [hactivity]
    rfl
  · exact fun _ => RegistrationAdapter.workStep_wait

end Turns

/-! ### The start of an adapter -/

variable {p p' p₀ : Pool} {g : Group} {id : Nat} {busUrl storeUrl : String}

lemma balanced_subscribe (hnumbered : (h.store busUrl).bus.Numbered) :
    Balanced config (h.store storeUrl) []
      (RegistrationAdapter.subscribe h config busUrl storeUrl).2
      (RegistrationAdapter.subscribe h config busUrl storeUrl).1 {} := by
  set a := (RegistrationAdapter.subscribe h config busUrl storeUrl).1
  set work : Store → Nat × Store := fun s =>
    (s.bus.subscribe.1, { s with bus := s.bus.subscribe.2 })
  have hhost : (RegistrationAdapter.subscribe h config busUrl storeUrl).2
      = (h.withStore busUrl work).2 := rfl
  have hmailbox : a.mailbox? (h.withStore busUrl work).2 = some {} := by
    refine RegistrationAdapter.mailbox?_withStore_self (a := a) work |>.trans ?_
    exact Bus.mailbox?_subscribe hnumbered
  rw [hhost]
  refine
    { config_eq := rfl, listens := ⟨?_, ?_, fun _ => rfl⟩, read := ?_, topic := by simp,
      overwritten := rfl, letIn := rfl, own := by simp, others := rfl, streams := ?_,
      crashed := rfl, lost := by simp, heard := by simp }
  · intro box hbox
    obtain rfl := Option.some.inj (hmailbox.symm.trans hbox)
    exact Mailbox.Sound.empty
  · intro hgone
    rw [hmailbox] at hgone
    contradiction
  · rw [RegistrationAdapter.unread_of_mailbox? hmailbox]
    rfl
  · exact RegistrationAdapter.streams_withStore (fun _ => rfl) _

/-- The adapter of a number is connected to two stores, it was not told to stop, and its books are
right. -/
structure Runs (config : AdapterConfig) (busUrl storeUrl : String) (start : Store) (id : Nat)
    (t : StopToken) (events : List Event) (p : Pool) (a : RegistrationAdapter) : Prop where
  adapter : p.adapters[id]? = some a
  bus : a.busUrl = busUrl
  store : a.storeUrl = storeUrl
  running : p.isCancelled t = false
  balanced : ∃ b, Balanced config start events p.host a b

lemma startRegistration_eq_ok {accepting : Bool}
    (hstart : p.startRegistration g t config busUrl storeUrl accepting = (.ok (), p₀)) :
    p₀.host = (RegistrationAdapter.subscribe p.host config busUrl storeUrl).2 ∧
      p₀.adapters = p.adapters
        ++ [(RegistrationAdapter.subscribe p.host config busUrl storeUrl).1] := by
  unfold Pool.startRegistration at hstart
  generalize RegistrationAdapter.subscribe p.host config busUrl storeUrl = subscription
    at hstart ⊢
  obtain ⟨adapter, host⟩ := subscription
  split at hstart
  · exact absurd (congrArg Prod.fst hstart) (by simp)
  · obtain ⟨-, rfl⟩ := Prod.mk.inj hstart
    rw [Pool.launchWorkers_eq]
    exact ⟨rfl, rfl⟩

lemma runs_start (hnumbered : (p.host.store busUrl).bus.Numbered) (hopen : p.isCancelled t = false)
    {accepting : Bool}
    (hstart : p.startRegistration g t config busUrl storeUrl accepting = (.ok (), p₀)) :
    ∃ a, Runs config busUrl storeUrl (p.host.store storeUrl) p.adapters.length t [] p₀ a := by
  obtain ⟨hhost, hadapters⟩ := startRegistration_eq_ok hstart
  refine ⟨_, ?_, rfl, rfl, ?_, {}, hhost ▸ balanced_subscribe hnumbered⟩
  · rw [hadapters, List.getElem?_concat_length]
  · rw [Pool.isCancelled, hhost]
    exact hopen

/-! ### The run of an adapter -/

namespace Runs

variable {e : Event}

/-- Nothing that is done to the host tells the adapter to stop. -/
lemma isCancelled_of_affected (hr : Runs config busUrl storeUrl start id t events p a)
    (haffected : Host.Affected (fun _ => False) p.host h') : h'.isCancelled t = false := by
  rw [Host.isCancelled, haffected.cancelled_eq]
  exact hr.running

/-- Every event leaves the books right. -/
theorem step (hr : Runs config busUrl storeUrl start id t events p a) (hstep : Step id t p e p') :
    ∃ a', Runs config busUrl storeUrl start id t (events ++ [e]) p' a' := by
  obtain ⟨b, hb⟩ := hr.balanced
  cases hstep with
  | publishes ha hroom =>
    obtain rfl := Option.some.inj (hr.adapter.symm.trans ha)
    exact ⟨a, hr.adapter, hr.bus, hr.store, hr.running, hb.hears _ hroom⟩
  | overruns ha hfull =>
    obtain rfl := Option.some.inj (hr.adapter.symm.trans ha)
    exact ⟨a, hr.adapter, hr.bus, hr.store, hr.running, hb.forgets _ hfull⟩
  | receives htask hactivity htoken =>
    have hopen := hr.isCancelled_of_affected (a.affected_receiveStep p.host t)
    subst htoken
    obtain ⟨hhost, hadapter⟩ := turn_receiving hr.adapter hactivity
    obtain ⟨hreceived, hlistens, hstreams⟩ :=
      RegistrationAdapter.received_receiveStep hr.running hb.listens
    rw [← hhost] at hopen hreceived hlistens hstreams
    obtain ⟨hbus, hstore⟩ := hreceived.urls
    exact ⟨_, hadapter, hbus.trans hr.bus, hstore.trans hr.store, hopen,
      hb.receives hreceived hlistens hstreams⟩
  | works htask hactivity htoken =>
    have hopen := hr.isCancelled_of_affected (a.affected_workStep p.host t)
    subst htoken
    obtain ⟨hhost, hadapter⟩ := turn_working hr.adapter hactivity
    obtain ⟨hworked, hlistens, hunread⟩ :=
      RegistrationAdapter.worked_workStep hr.running hb.listens
    rw [← hhost] at hopen hworked hlistens hunread
    obtain ⟨hbus, hstore⟩ := hworked.urls
    exact ⟨_, hadapter, hbus.trans hr.bus, hstore.trans hr.store, hopen,
      hb.works hworked hlistens hunread⟩
  | asks ha =>
    obtain rfl := Option.some.inj (hr.adapter.symm.trans ha)
    exact ⟨a, hr.adapter, hr.bus, hr.store, hr.running, hb.asks _⟩
  | goesOn ha ha' hopen hmailbox hstreams =>
    obtain rfl := Option.some.inj (hr.adapter.symm.trans ha)
    refine ⟨a, ha', hr.bus, hr.store, hopen, b, hb.silent rfl rfl rfl ?_
      (RegistrationAdapter.unread_congr hmailbox) hstreams (hmailbox.trans ·)⟩
    exact ⟨fun box hbox => hb.listens.sound box (hmailbox ▸ hbox),
      fun hgone => hb.listens.gone (hmailbox ▸ hgone), hb.listens.closed⟩

end Runs

lemma runs_course (hr : ∃ a, Runs config busUrl storeUrl start id t [] p a)
    (hcourse : Course id t p events p') :
    ∃ a, Runs config busUrl storeUrl start id t events p' a := by
  induction hcourse with
  | start => exact hr
  | step before last ih =>
    obtain ⟨a, ha⟩ := ih
    exact ha.step last

/-! ### What became of the messages -/

/-- What a publication to a store comes to: no stream captures its subject and it is refused, or the
first stream that does takes it with its payload. -/
inductive Lands (s : Store) (now : Nat) (subject : String) (payload : Bytes) : Prop where
  | refused (huncaptured : s.Uncaptured subject)
      (hanswer : s.answer now (.publish subject payload) = .error (.noMatchingStream subject))
      (hsame : s.serve now (.publish subject payload) = s)
  | stored {name : String} {stream : Stream} (hfirst : s.IsFirstCapturing subject name)
      (hstream : s.streams.get? name = some stream)
      (htakes : s.TakesOnly (s.serve now (.publish subject payload)) name
        (stream.incoming subject payload now))

lemma lands (s : Store) (hs : s.streams.Sorted) (now : Nat) (subject : String) (payload : Bytes) :
    Lands s now subject payload := by
  cases hroute : s.route? subject with
  | none =>
    have hanswer : s.publish now subject payload = (.error (.noMatchingStream subject), s) := by
      simp only [Store.publish, hroute]
    refine .refused ((Store.uncaptured_iff hs subject).2 hroute) ?_ ?_
    · rw [Store.answer, hanswer]
      rfl
    · rw [Store.serve, hanswer]
  | some found =>
    obtain ⟨name, stream⟩ := found
    obtain ⟨hname, -, -⟩ := (Keyed.Sorted.find?_eq_some_iff hs).1 hroute
    refine .stored (Store.isFirstCapturing_of_route? hs hroute) hname ?_
    rw [Store.serve, Store.publish_snd hroute]
    exact Store.takesOnly_publish hname subject payload

/-- A publication crashes on a stream whose age limit cannot be applied. -/
lemma exists_overreached {history : List Served} (hs : start.streams.Sorted)
    (hown : ∀ e ∈ history, ∀ m, e.message = some m → e.request = request config m)
    (hcrashes : crashes start history ≠ 0) :
    ∃ before e after, history = before ++ e :: after ∧
      (start.serveAll (before.map Served.entry)).Overreached e.now e.request := by
  induction history generalizing start with
  | nil => contradiction
  | cons first rest ih =>
    by_cases hfirst : first.message.isSome ∧ start.answer first.now first.request = .crash
    · obtain ⟨hsome, hcrash⟩ := hfirst
      obtain ⟨m, hm⟩ := Option.isSome_iff_exists.1 hsome
      have hrequest := hown first List.mem_cons_self m hm
      refine ⟨[], first, rest, rfl, ?_⟩
      rw [hrequest] at hcrash ⊢
      exact (Store.ends_publish hs _ _).crash_iff.1 hcrash
    · rw [crashes, if_neg hfirst, Nat.zero_add] at hcrashes
      obtain ⟨before, e, after, rfl, hover⟩ := ih (Store.sorted_serve hs first.now first.request)
        (fun e he => hown e (List.mem_cons_of_mem _ he)) hcrashes
      exact ⟨first :: before, e, after, rfl, hover⟩

/-- **The messages of an adapter.**  After every course of publications, turns of its tasks and
other work the books of a started adapter can be made right: every message on the bus is in one
place, in order; the adapter publishes what it let in and nothing else, each message once, under the
subject of its sender and with its payload, and the store keeps it or has no stream for it; messages
are overwritten only where one meets a full mailbox; and they are lost only when as many
publications have crashed as the adapter has workers, on streams whose age limit cannot be
applied. -/
theorem conserves {accepting : Bool}
    (hstart : p.startRegistration g t config busUrl storeUrl accepting = (.ok (), p₀))
    (hopen : p.isCancelled t = false) (hnumbered : (p.host.store busUrl).bus.Numbered)
    (hsorted : (p.host.store storeUrl).streams.Sorted)
    (hcourse : Course p.adapters.length t p₀ events p') :
    ∃ a b, p'.adapters[p.adapters.length]? = some a ∧ a.busUrl = busUrl ∧ a.storeUrl = storeUrl ∧
      Balanced config (p.host.store storeUrl) events p'.host a b ∧
      (∀ before e after m, b.history = before ++ e :: after → e.message = some m →
        Lands ((p.host.store storeUrl).serveAll (before.map Served.entry)) e.now
          (config.streamSubject m.sender) m.payload) ∧
      (b.dropped ≠ [] ∨ b.unheard ≠ [] →
        workers config ≤ crashes (p.host.store storeUrl) b.history ∧
          ∃ before e after, b.history = before ++ e :: after ∧
            ((p.host.store storeUrl).serveAll (before.map Served.entry)).Overreached
              e.now e.request) := by
  obtain ⟨a, hr⟩ := runs_course (runs_start hnumbered hopen hstart) hcourse
  obtain ⟨b, hb⟩ := hr.balanced
  refine ⟨a, b, hr.adapter, hr.bus, hr.store, hb, ?_, ?_⟩
  · intro before e after m _ _
    exact lands _ (Store.sorted_serveAll hsorted _) _ _ _
  · intro hlost
    have hcrashes : workers config ≤ crashes (p.host.store storeUrl) b.history := by
      rw [← hb.crashed, ← hb.config_eq]
      exact of_decide_eq_true (hb.lost hlost)
    have hworkers : 1 ≤ workers config := Nat.le_max_right _ 1
    exact ⟨hcrashes, exists_overreached hsorted hb.own (by omega)⟩

/-! ### Two nodes and one stream -/

/-- A registration. -/
def hello : CoreMessage where
  subject := registrationTarget
  sender := "n1"
  payload := [1]

/-- The registration of a node that no stream is there for. -/
def unwelcome : CoreMessage where
  subject := registrationTarget
  sender := "n2"
  payload := [2]

/-- A message that is no registration. -/
def stray : CoreMessage where
  subject := "elsewhere"
  sender := "n1"
  payload := [3]

/-- A store with a stream for the registrations of one node. -/
def nodeStore : Store :=
  Store.serveAll {} [(0, .createStream
    { name := "NODES", subjects := ["machine_room.nodes.n1"] })]

/-- The pool in which an adapter was started between a bus and this store. -/
def startedPool : Pool :=
  (({ host := { network := [("store", nodeStore)] } } : Pool).startRegistration 0 0 {} "bus"
    "store" true).2

/-- Its receiving task. -/
def receiver : Task := ⟨0, some 0, 0, .receiving 0⟩

/-- One of its workers. -/
def worker : Task := ⟨1, some 0, 0, .working 0⟩

/-- The pool after an event, if there is room for it and no task waits or ends with it. -/
def after? (p : Pool) : Event → Option Pool
  | .publishes m =>
    match p.adapters[0]? with
    | none => none
    | some a =>
      if (a.unread p.host).length < Mailbox.capacity then
        some { p with host := (p.host.withStore a.busUrl fun s => s.publishCore m).2 }
      else none
  | .receives =>
    if (p.stepAdapter 0 fun a => a.receiveStep p.host 0).1 = .next () then some (p.turn receiver)
    else none
  | .works =>
    if (p.stepAdapter 0 fun a => a.workStep p.host 0).1 = .next () then some (p.turn worker)
    else none
  | _ => none

/-- The pool after events. -/
def play? (p : Pool) : List Event → Option Pool
  | [] => some p
  | e :: events => (after? p e).bind fun p => play? p events

/-- A course in which no task has ended. -/
structure Staffed (events : List Event) (p : Pool) : Prop where
  course : Course 0 0 startedPool events p
  tasks : p.tasks = startedPool.tasks

namespace Staffed

variable {e : Event} {rest : List Event}

lemma tasks_turn {task : Task} (hs : Staffed events p) (htask : task ∈ p.tasks)
    (hnext : (p.stepActivity task.token task.activity).1 = .next task.activity) :
    (p.turn task).tasks = startedPool.tasks := by
  have hids : (p.tasks.map Task.id).Nodup := by
    rw [hs.tasks]
    decide
  rw [Pool.tasks_turn_of_next hids htask hnext, hs.tasks]

lemma step (hs : Staffed events p) (h : after? p e = some p') : Staffed (events ++ [e]) p' := by
  cases e with
  | publishes m =>
    simp only [after?] at h
    split at h
    · contradiction
    · next a ha =>
      split at h
      · next hroom =>
        obtain rfl := Option.some.inj h
        exact ⟨.step hs.course (.publishes ha hroom), hs.tasks⟩
      · contradiction
  | receives =>
    simp only [after?] at h
    split at h
    · next hnext =>
      obtain rfl := Option.some.inj h
      have htask : receiver ∈ p.tasks := by
        rw [hs.tasks]
        exact .head _
      refine ⟨.step hs.course (.receives htask rfl rfl), hs.tasks_turn htask ?_⟩
      simp only [receiver, Pool.stepActivity, hnext]
      rfl
    · contradiction
  | works =>
    simp only [after?] at h
    split at h
    · next hnext =>
      obtain rfl := Option.some.inj h
      have htask : worker ∈ p.tasks := by
        rw [hs.tasks]
        exact .tail _ (.head _)
      refine ⟨.step hs.course (.works htask rfl rfl), hs.tasks_turn htask ?_⟩
      simp only [worker, Pool.stepActivity, hnext]
      rfl
    · contradiction
  | overruns m => contradiction
  | asks now r => contradiction
  | goesOn => contradiction

lemma play (hs : Staffed events p) (h : play? p rest = some p') : Staffed (events ++ rest) p' := by
  induction rest generalizing events p with
  | nil =>
    obtain rfl := Option.some.inj h
    rwa [List.append_nil]
  | cons e rest ih =>
    obtain ⟨q, hstep, hrest⟩ := Option.bind_eq_some_iff.1 h
    rw [List.append_cons]
    exact ih (hs.step hstep) hrest

end Staffed

/-- Three messages are published.  Two of them are let in, put into the queue and published to the
store. -/
def visits : List Event :=
  [.publishes hello, .publishes stray, .publishes unwelcome, .receives, .receives, .receives,
    .works, .receives, .receives, .works]

/-- Then the adapter has nothing left to do, and the stream holds the message that it is there
for. -/
lemma exists_visits : ∃ p, Course 0 0 startedPool visits p ∧
    (p.adapters[0]?.map fun a => (a.isClosed, a.unread p.host, a.queue, a.held))
      = some (false, [], [], none) ∧
    ((p.host.store "store").streams.get? "NODES").map (fun s => s.messages.map (·.payload))
      = some [[1]] := by
  have hplayed : ∃ p ∈ play? startedPool visits,
      (p.adapters[0]?.map fun a => (a.isClosed, a.unread p.host, a.queue, a.held))
        = some (false, [], [], none) ∧
      ((p.host.store "store").streams.get? "NODES").map (fun s => s.messages.map (·.payload))
        = some [[1]] := by
    decide +kernel
  obtain ⟨p, hp, hend⟩ := hplayed
  have hstaffed : Staffed visits p := Staffed.play ⟨.start, rfl⟩ hp
  exact ⟨p, hstaffed.course, hend⟩

/-- It has published both registrations, in order, and nothing else. -/
theorem conserves_visits :
    ∃ p a b, Course 0 0 startedPool visits p ∧ p.adapters[0]? = some a ∧
      Balanced {} nodeStore visits p.host a b ∧ b.published = [hello, unwelcome] ∧
      ((a.streams p.host).get? "NODES").map (fun s => s.messages.map (·.payload))
        = some [[1]] := by
  have hstart : ({ host := { network := [("store", nodeStore)] } } : Pool).startRegistration 0 0 {}
      "bus" "store" true = (.ok (), startedPool) := rfl
  obtain ⟨p, hvisits, hidle, hstream⟩ := exists_visits
  obtain ⟨a, b, hlast, -, hstore, hb, -, -⟩ := conserves hstart rfl (fun e he => by contradiction)
    (Store.sorted_serveAll Store.sorted_empty _) hvisits
  have ha : p.adapters[0]? = some a := hlast
  rw [ha] at hidle
  simp only [Option.map_some, Option.some.injEq, Prod.mk.injEq] at hidle
  obtain ⟨hopen, hunread, hqueue, hheld⟩ := hidle
  have hpublished : b.published = [hello, unwelcome] :=
    (hb.published_of_idle rfl hopen hunread hqueue hheld).trans (by decide +kernel)
  refine ⟨p, a, b, hvisits, ha, hb, hpublished, ?_⟩
  rw [RegistrationAdapter.streams, hstore]
  exact hstream

end Registering

end EdgeNode
