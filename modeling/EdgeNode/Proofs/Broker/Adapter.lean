import EdgeNode.Broker.Adapter
import EdgeNode.Proofs.Store.Bus
/-!
# The steps of a data adapter

What the two tasks of an adapter do to its mailbox, to what they have in hand and to the streams
that they publish to: `RegistrationAdapter.Received` lists it for a step of the receiving task and
`RegistrationAdapter.Worked` for a step of a worker.
-/

namespace EdgeNode

namespace RegistrationAdapter

variable {a : RegistrationAdapter} {h : Host} {t : StopToken}

/-- What waits for an adapter on the bus; none when it has left. -/
def mailbox? (a : RegistrationAdapter) (h : Host) : Option Mailbox :=
  (h.store a.busUrl).bus.mailbox? a.subscriber

/-- The messages that an adapter has not read. -/
def unread (a : RegistrationAdapter) (h : Host) : List CoreMessage :=
  ((a.mailbox? h).map Mailbox.queue).getD []

/-- The streams that an adapter publishes to. -/
def streams (a : RegistrationAdapter) (h : Host) : Keyed Stream :=
  (h.store a.storeUrl).streams

/-- The mailbox of an adapter is in order, and an adapter without one has no worker left and nothing
in hand. -/
structure Listens (a : RegistrationAdapter) (h : Host) : Prop where
  sound : ∀ box, a.mailbox? h = some box → box.Sound
  gone : a.mailbox? h = none → a.isClosed ∧ a.held = none
  closed : a.isClosed → a.queue = []

lemma Listens.of_mailbox? {a' : RegistrationAdapter} {h' : Host} (hlistens : a.Listens h)
    (hopen : a.isClosed = false) (hmailbox : a'.mailbox? h' = a.mailbox? h)
    (hclosed : a'.isClosed → a'.queue = []) : a'.Listens h' where
  sound box hbox := hlistens.sound box (hmailbox ▸ hbox)
  gone hgone := absurd (hlistens.gone (hmailbox ▸ hgone)).1 (by simp [hopen])
  closed := hclosed

/-! ### A step of the receiving task -/

/-- What a step of the receiving task comes to, unless its token was cancelled. -/
inductive Received (h : Host) (a : RegistrationAdapter) : Host → RegistrationAdapter → Prop where
  /-- Nothing, but that the losses are noted. -/
  | nothing {h' : Host} (hunread : a.unread h' = a.unread h)
      (hgone : a.mailbox? h = none → a.mailbox? h' = none) : Received h a h' a
  /-- A message is not on the topic. -/
  | passesOver {h' : Host} {m : CoreMessage} (hunread : a.unread h = m :: a.unread h')
      (htopic : Subject.covers a.config.ingestTopic m.subject = false) : Received h a h' a
  /-- A message is let in. -/
  | letsIn {h' : Host} {m : CoreMessage} (hheld : a.held = none)
      (hunread : a.unread h = m :: a.unread h')
      (htopic : Subject.covers a.config.ingestTopic m.subject = true) :
      Received h a h' { a with held := some m }
  /-- A message that was let in is put into the queue. -/
  | enqueues {m : CoreMessage} (hheld : a.held = some m) (hopen : a.isClosed = false) :
      Received h a h { a with held := none, queue := a.queue ++ [m] }
  /-- There is no queue for a message that was let in, and the task leaves. -/
  | leaves {h' : Host} {m : CoreMessage} (hheld : a.held = some m) (hclosed : a.isClosed)
      (hgone : a.mailbox? h' = none) : Received h a h' { a with held := none }

/-- The receiving task stays between the two stores. -/
lemma Received.urls {h' : Host} {a' : RegistrationAdapter} (hr : Received h a h' a') :
    a'.busUrl = a.busUrl ∧ a'.storeUrl = a.storeUrl := by
  cases hr <;> exact ⟨rfl, rfl⟩

lemma mailbox?_withStore_self {α : Type} (work : Store → α × Store) :
    a.mailbox? (h.withStore a.busUrl work).2
      = (work (h.store a.busUrl)).2.bus.mailbox? a.subscriber := by
  rw [mailbox?, Host.store_withStore_self]

lemma mailbox?_withStore {α : Type} {work : Store → α × Store}
    (hwork : ∀ s, (work s).2.bus = s.bus) (url : String) :
    a.mailbox? (h.withStore url work).2 = a.mailbox? h := by
  rw [mailbox?, Host.bus_withStore hwork, mailbox?]

lemma streams_withStore {α : Type} {work : Store → α × Store}
    (hwork : ∀ s, (work s).2.streams = s.streams) (url : String) :
    a.streams (h.withStore url work).2 = a.streams h :=
  Host.streams_withStore hwork url a.storeUrl

/-- What is read comes out of the mailbox, and nothing else changes. -/
lemma receive?_eq_some {d : Delivery} {h' : Host}
    (hreceive : a.receive? h = some (d, h')) :
    ∃ box box', a.mailbox? h = some box ∧ box.pop? = some (d, box') ∧
      a.mailbox? h' = some box' ∧ a.streams h' = a.streams h := by
  simp only [receive?] at hreceive
  split at hreceive
  · contradiction
  · next d' box' hpop =>
    obtain ⟨rfl, rfl⟩ := Prod.mk.inj (Option.some.inj hreceive)
    obtain ⟨box, hbox, hpop⟩ := Option.bind_eq_some_iff.1 hpop
    set work : Store → Unit × Store := fun s =>
      ((), { s with bus := s.bus.setMailbox a.subscriber box' })
    have hmailbox : a.mailbox? (h.withStore a.busUrl work).2 = some box' := by
      rw [mailbox?_withStore_self, Bus.mailbox?_setMailbox, hbox]
      rfl
    have hstreams : a.streams (h.withStore a.busUrl work).2 = a.streams h :=
      streams_withStore (fun _ => rfl) _
    exact ⟨box, box', hbox, hpop, hmailbox, hstreams⟩

lemma mailbox?_publishCore (m : CoreMessage) :
    a.mailbox? (h.withStore a.busUrl fun s => s.publishCore m).2
      = (a.mailbox? h).map fun box => box.push m := by
  rw [mailbox?_withStore_self, Store.publishCore]
  exact Bus.mailbox?_publish _ m _

lemma streams_publishCore (m : CoreMessage) :
    a.streams (h.withStore a.busUrl fun s => s.publishCore m).2 = a.streams h :=
  streams_withStore (fun _ => rfl) _

lemma Listens.publishCore (hlistens : a.Listens h) (m : CoreMessage) :
    a.Listens (h.withStore a.busUrl fun s => s.publishCore m).2 where
  sound box hbox := by
    rw [mailbox?_publishCore, Option.map_eq_some_iff] at hbox
    obtain ⟨old, hold, rfl⟩ := hbox
    exact (hlistens.sound old hold).push m
  gone hgone := by
    rw [mailbox?_publishCore, Option.map_eq_none_iff] at hgone
    exact hlistens.gone hgone
  closed := hlistens.closed

lemma mailbox?_leave : a.mailbox? (a.leave h) = none := by
  rw [leave, mailbox?_withStore_self, Bus.mailbox?_unsubscribe]

lemma streams_leave : a.streams (a.leave h) = a.streams h := by
  unfold leave
  exact streams_withStore (fun _ => rfl) _

lemma unread_of_mailbox? {box : Mailbox} (h' : a.mailbox? h = some box) :
    a.unread h = box.queue := by
  rw [unread, h']
  rfl

lemma unread_congr {h' : Host} (hmailbox : a.mailbox? h' = a.mailbox? h) :
    a.unread h' = a.unread h := by
  rw [unread, hmailbox, unread]

lemma unread_of_mailbox?_eq_none (h' : a.mailbox? h = none) : a.unread h = [] := by
  rw [unread, h']
  rfl

lemma receive?_of_mailbox? (hgone : a.mailbox? h = none) : a.receive? h = none := by
  rw [mailbox?] at hgone
  simp [receive?, hgone]

/-- A reading, by what was read. -/
lemma reads_of_receive? {d : Delivery} {h' : Host} (hlistens : a.Listens h)
    (hreceive : a.receive? h = some (d, h')) :
    a.Listens h' ∧ a.mailbox? h' ≠ none ∧ a.streams h' = a.streams h ∧
      ((∃ count, d = .lagged count) ∧ a.unread h' = a.unread h ∨
        ∃ m, d = .message m ∧ a.unread h = m :: a.unread h') := by
  obtain ⟨box, box', hbox, hpop, hbox', hstreams⟩ := receive?_eq_some hreceive
  obtain ⟨hsound, hread⟩ := Mailbox.pop?_eq_some (hlistens.sound box hbox) hpop
  rw [unread_of_mailbox? hbox, unread_of_mailbox? hbox']
  refine ⟨⟨?_, ?_, hlistens.closed⟩, by simp [hbox'], hstreams, hread⟩
  · intro box'' hbox''
    obtain rfl := Option.some.inj (hbox'.symm.trans hbox'')
    exact hsound
  · intro hgone
    rw [hbox'] at hgone
    contradiction

/-- The receiving task does one of the things that `Received` lists, leaves the streams alone and
keeps its mailbox in order. -/
lemma received_receiveStep (hopen : h.isCancelled t = false) (hlistens : a.Listens h) :
    Received h a (a.receiveStep h t).2.1 (a.receiveStep h t).2.2 ∧
      (a.receiveStep h t).2.2.Listens (a.receiveStep h t).2.1 ∧
      a.streams (a.receiveStep h t).2.1 = a.streams h := by
  unfold receiveStep
  rw [if_neg (by simp [hopen])]
  cases hheld : a.held with
  | some m =>
    dsimp only
    split
    · next hclosed =>
      refine ⟨.leaves hheld hclosed mailbox?_leave, ⟨?_, ?_, hlistens.closed⟩, streams_leave⟩
      · intro box hbox
        exact absurd (mailbox?_leave.symm.trans hbox) (by simp)
      · exact fun _ => ⟨hclosed, rfl⟩
    · next hclosed =>
      split
      · refine ⟨.enqueues hheld (by simpa using hclosed), ⟨hlistens.sound, ?_, ?_⟩, rfl⟩
        · exact fun hgone => absurd (hlistens.gone hgone).1 hclosed
        · exact fun hclosed' => absurd hclosed' hclosed
      · exact ⟨.nothing rfl id, hlistens, rfl⟩
  | none =>
    dsimp only
    split
    · exact ⟨.nothing rfl id, hlistens, rfl⟩
    · next h' hreceive =>
      obtain ⟨hlistens', -, hstreams, ⟨-, hunread⟩ | ⟨m, hm, -⟩⟩ :=
        reads_of_receive? hlistens hreceive
      · exact ⟨.nothing hunread fun hgone => by simp [receive?_of_mailbox? hgone] at hreceive,
          hlistens', hstreams⟩
      · contradiction
    · next m h' hreceive =>
      obtain ⟨hlistens', hstays, hstreams, ⟨⟨count, hcount⟩, -⟩ | ⟨m', hm, hunread⟩⟩ :=
        reads_of_receive? hlistens hreceive
      · contradiction
      · obtain rfl := Delivery.message.inj hm
        split
        · next htopic =>
          refine ⟨.letsIn hheld hunread htopic, ⟨hlistens'.sound, ?_, hlistens'.closed⟩, hstreams⟩
          exact fun hgone => absurd hgone hstays
        · next htopic =>
          exact ⟨.passesOver hunread (by simpa using htopic), hlistens', hstreams⟩

lemma receiveStep_wait {wake : Option Nat} (hwait : (a.receiveStep h t).1 = .wait wake) :
    (a.receiveStep h t).2 = (h, a) := by
  unfold receiveStep at hwait ⊢
  split at hwait
  · contradiction
  · next hopen =>
    rw [if_neg hopen]
    split at hwait
    · next m hheld =>
      split at hwait
      · contradiction
      · next hclosed =>
        split at hwait
        · contradiction
        · next hfull => simp only [if_neg hclosed, if_neg hfull]
    · next hheld =>
      split at hwait
      · rfl
      · contradiction
      · split at hwait <;> contradiction

/-! ### A step of a worker -/

/-- The request by which an adapter publishes a message. -/
def request (c : AdapterConfig) (m : CoreMessage) : Store.Request :=
  .publish (c.streamSubject m.sender) m.payload

/-- What a step of a worker comes to, unless its token was cancelled. -/
inductive Worked (h : Host) (a : RegistrationAdapter) : Host → RegistrationAdapter → Prop where
  /-- There is nothing to do. -/
  | nothing (hqueue : a.queue = []) : Worked h a h a
  /-- A message is published, and the store takes it or refuses it. -/
  | publishes {h' : Host} {m : CoreMessage} {rest : List CoreMessage} (hqueue : a.queue = m :: rest)
      (hserves : a.streams h'
        = ((h.store a.storeUrl).serve h.wallClock (request a.config m)).streams)
      (hanswer : (h.store a.storeUrl).answer h.wallClock (request a.config m) ≠ .crash) :
      Worked h a h' { a with queue := rest }
  /-- A message is published, and the publication crashes. -/
  | crashes {h' : Host} {m : CoreMessage} {rest : List CoreMessage} (hqueue : a.queue = m :: rest)
      (hserves : a.streams h'
        = ((h.store a.storeUrl).serve h.wallClock (request a.config m)).streams)
      (hanswer : (h.store a.storeUrl).answer h.wallClock (request a.config m) = .crash) :
      Worked h a h' (loseWorker { a with queue := rest })

/-- With the last worker goes the queue. -/
lemma loseWorker_cases (a : RegistrationAdapter) :
    (workers a.config ≤ a.crashed + 1 ∧
      a.loseWorker = { a with crashed := a.crashed + 1, queue := [] }) ∨
    (a.crashed + 1 < workers a.config ∧ a.loseWorker = { a with crashed := a.crashed + 1 }) := by
  by_cases hlast : workers a.config ≤ a.crashed + 1
  · exact .inl ⟨hlast, by simp [loseWorker, isClosed, hlast]⟩
  · exact .inr ⟨Nat.not_le.1 hlast, by simp [loseWorker, isClosed, hlast]⟩

/-- So does a worker. -/
lemma Worked.urls {h' : Host} {a' : RegistrationAdapter} (hw : Worked h a h' a') :
    a'.busUrl = a.busUrl ∧ a'.storeUrl = a.storeUrl := by
  cases hw with
  | nothing | publishes => exact ⟨rfl, rfl⟩
  | @crashes _ m rest _ _ _ =>
    rcases loseWorker_cases { a with queue := rest } with ⟨-, heq⟩ | ⟨-, heq⟩ <;>
      rw [heq] <;> exact ⟨rfl, rfl⟩

/-- The publication of a message. -/
def publication (h : Host) (a : RegistrationAdapter) (m : CoreMessage) :
    Outcome StoreError Nat × Host :=
  h.withStore a.storeUrl fun s =>
    s.publish h.wallClock (a.config.streamSubject m.sender) m.payload

lemma mailbox?_publication (m : CoreMessage) :
    a.mailbox? (publication h a m).2 = a.mailbox? h :=
  mailbox?_withStore (fun s => Store.bus_publish s _ _ _) _

lemma streams_publication (m : CoreMessage) : a.streams (publication h a m).2
    = ((h.store a.storeUrl).serve h.wallClock (request a.config m)).streams := by
  rw [publication, streams, Host.store_withStore_self]
  rfl

lemma answer_publication (m : CoreMessage) :
    (h.store a.storeUrl).answer h.wallClock (request a.config m)
      = (publication h a m).1.map fun _ => () := rfl

lemma worked_workStep (hopen : h.isCancelled t = false) (hlistens : a.Listens h) :
    Worked h a (a.workStep h t).2.1 (a.workStep h t).2.2 ∧
      (a.workStep h t).2.2.Listens (a.workStep h t).2.1 ∧
      a.unread (a.workStep h t).2.1 = a.unread h := by
  unfold workStep
  rw [if_neg (by simp [hopen])]
  cases hqueue : a.queue with
  | nil => exact ⟨.nothing hqueue, hlistens, rfl⟩
  | cons m rest =>
    have hmailbox : a.mailbox? (publication h a m).2 = a.mailbox? h := mailbox?_publication m
    have hstreams := streams_publication (a := a) (h := h) m
    have hanswer := answer_publication (a := a) (h := h) m
    have hstill : a.isClosed = false := by
      by_contra hclosed
      simp [hlistens.closed (by simpa using hclosed)] at hqueue
    cases hwork : publication h a m with
    | mk answer h' =>
      rw [hwork] at hmailbox hstreams hanswer
      have hunread : a.unread h' = a.unread h := unread_congr hmailbox
      rw [publication] at hwork
      simp only [hwork]
      cases answer with
      | crash =>
        refine ⟨.crashes hqueue hstreams hanswer, ?_, hunread⟩
        rcases loseWorker_cases { a with queue := rest } with ⟨-, heq⟩ | ⟨hleft, heq⟩
        · rw [heq]
          exact hlistens.of_mailbox? hstill hmailbox fun _ => rfl
        · rw [heq]
          refine hlistens.of_mailbox? hstill hmailbox fun hclosed => ?_
          exact absurd (of_decide_eq_true hclosed) (Nat.not_le.2 hleft)
      | ok _ | error _ =>
        refine ⟨.publishes hqueue hstreams (by simp [hanswer, Outcome.map]), ?_, hunread⟩
        refine hlistens.of_mailbox? hstill hmailbox fun hclosed => ?_
        exact absurd hclosed (by simpa [isClosed] using hstill)

lemma workStep_wait {wake : Option Nat} (hwait : (a.workStep h t).1 = .wait wake) :
    (a.workStep h t).2 = (h, a) := by
  unfold workStep at hwait ⊢
  split at hwait
  · contradiction
  · next hopen =>
    rw [if_neg hopen]
    split at hwait
    · rfl
    · split at hwait <;> contradiction

end RegistrationAdapter

end EdgeNode
