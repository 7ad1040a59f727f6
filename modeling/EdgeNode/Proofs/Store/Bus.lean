import EdgeNode.Host
import EdgeNode.Proofs.Store.Crashes
/-!
# The mailbox of a subscriber

What a publication on the core bus, a reading and the coming and going of subscribers do to one
mailbox.  Requests for streams leave the bus alone, and what becomes of the streams does not depend
on it.
-/

namespace EdgeNode

namespace Mailbox

variable {b b' : Mailbox} {d : Delivery}

/-- The number of messages in a mailbox is known. -/
def Sound (b : Mailbox) : Prop :=
  b.size = b.queue.length

lemma Sound.empty : Sound {} := rfl

lemma push_of_lt (hs : b.Sound) (m : CoreMessage) (hroom : b.queue.length < capacity) :
    (b.push m).queue = b.queue ++ [m] := by
  rw [push, if_pos (hs ▸ hroom)]

/-- A full mailbox loses its oldest message. -/
lemma push_of_le (hs : b.Sound) (m : CoreMessage) (hfull : capacity ≤ b.queue.length) :
    (b.push m).queue = b.queue.tail ++ [m] := by
  rw [push, if_neg (hs ▸ Nat.not_lt.2 hfull), List.drop_one]

lemma Sound.push (hs : b.Sound) (m : CoreMessage) : (b.push m).Sound := by
  have hsize : b.size = b.queue.length := hs
  unfold Mailbox.push Sound
  split
  · simp [hsize]
  · next hfull =>
    have hcapacity : 0 < capacity := by decide
    simp only [List.length_append, List.length_drop, List.length_singleton]
    omega

/-- What is read is the number of the messages that were lost, or else the oldest message. -/
lemma pop?_eq_some (hs : b.Sound) (h : b.pop? = some (d, b')) : b'.Sound ∧
    ((∃ count, d = .lagged count) ∧ b'.queue = b.queue ∨
      ∃ m, d = .message m ∧ b.queue = m :: b'.queue) := by
  have hsize : b.size = b.queue.length := hs
  unfold pop? at h
  split at h
  · obtain ⟨rfl, rfl⟩ := Prod.mk.inj (Option.some.inj h)
    exact ⟨hsize, .inl ⟨⟨_, rfl⟩, rfl⟩⟩
  · split at h
    · contradiction
    · next m rest hqueue =>
      obtain ⟨rfl, rfl⟩ := Prod.mk.inj (Option.some.inj h)
      refine ⟨?_, .inr ⟨m, rfl, hqueue⟩⟩
      simp [Sound, hsize, hqueue]

end Mailbox

namespace Bus

variable {b : Bus} {id : Nat}

/-- Every subscriber has a number below the next one. -/
def Numbered (b : Bus) : Prop :=
  ∀ e ∈ b.mailboxes, e.1 < b.next

lemma mailbox?_subscribe (hb : b.Numbered) : b.subscribe.2.mailbox? b.subscribe.1 = some {} := by
  have hnone : b.mailboxes.find? (fun e => e.1 == b.next) = none := by
    rw [List.find?_eq_none]
    intro e he
    have hlt := hb e he
    simp only [beq_iff_eq]
    omega
  simp [subscribe, mailbox?, List.find?_append, hnone]

lemma mailbox?_publish (b : Bus) (m : CoreMessage) (id : Nat) :
    (b.publish m).2.mailbox? id = (b.mailbox? id).map fun box => box.push m := by
  unfold mailbox? publish
  rw [List.find?_map]
  simp only [Option.map_map]
  rfl

lemma mailbox?_setMailbox (b : Bus) (id : Nat) (box : Mailbox) :
    (b.setMailbox id box).mailbox? id = (b.mailbox? id).map fun _ => box := by
  unfold mailbox? setMailbox
  rw [List.find?_map, Option.map_map, Option.map_map]
  have hsame : ((fun e : Nat × Mailbox => e.1 == id) ∘ fun e => if e.1 == id then (id, box) else e)
      = fun e => e.1 == id := by
    funext e
    by_cases he : e.1 = id <;> simp [he]
  rw [hsame]
  cases hfind : b.mailboxes.find? fun e => e.1 == id with
  | none => rfl
  | some e =>
    have he : e.1 = id := by simpa using List.find?_some hfind
    simp [he]

lemma mailbox?_unsubscribe (b : Bus) (id : Nat) : (b.unsubscribe id).mailbox? id = none := by
  simp [mailbox?, unsubscribe, List.find?_filter]

end Bus

namespace Store

variable {s s' : Store}

/-! ### The bus and the streams -/

lemma bus_streamInfo (s : Store) (now : Nat) (name : String) :
    (s.streamInfo now name).2.bus = s.bus := by
  unfold streamInfo
  split
  · rfl
  · split <;> rfl

lemma bus_createStream (s : Store) (spec : StreamSpec) : (s.createStream spec).2.bus = s.bus := by
  unfold createStream
  split <;> rfl

lemma bus_publish (s : Store) (now : Nat) (subject : String) (payload : Bytes) :
    (s.publish now subject payload).2.bus = s.bus := by
  unfold publish
  split
  · rfl
  · split <;> rfl

@[simp] lemma bus_serve (s : Store) (now : Nat) (r : Request) : (s.serve now r).bus = s.bus := by
  cases r with
  | createStream spec => exact bus_createStream s spec
  | createBucket spec =>
    rw [serve, createBucket_snd]
    exact bus_createStream s _
  | publish subject payload => exact bus_publish s now subject payload
  | fetch name after limit =>
    rw [serve, fetch_snd]
    exact bus_streamInfo s now name
  | streamInfo name => exact bus_streamInfo s now name
  | bucketInfo name =>
    rw [serve, bucketInfo_snd]
    exact bus_streamInfo s now _

lemma publish_congr (h : s.streams = s'.streams) (now : Nat) (subject : String) (payload : Bytes) :
    (s.publish now subject payload).1 = (s'.publish now subject payload).1 ∧
      (s.publish now subject payload).2.streams = (s'.publish now subject payload).2.streams := by
  have hroute : s.route? subject = s'.route? subject := by rw [route?, route?, h]
  unfold publish
  rw [hroute]
  split
  · exact ⟨rfl, h⟩
  · split <;> exact ⟨rfl, by rw [setStream, setStream, h]⟩

lemma streams_createStream_congr (h : s.streams = s'.streams) (spec : StreamSpec) :
    (s.createStream spec).2.streams = (s'.createStream spec).2.streams := by
  unfold createStream
  rw [h]
  split
  · exact h
  · rfl

lemma streams_streamInfo_congr (h : s.streams = s'.streams) (now : Nat) (name : String) :
    (s.streamInfo now name).2.streams = (s'.streamInfo now name).2.streams := by
  unfold streamInfo
  rw [h]
  split
  · exact h
  · split
    · exact h
    · rw [setStream, setStream, h]

/-- What becomes of the streams does not depend on the bus. -/
lemma streams_serve_congr (h : s.streams = s'.streams) (now : Nat) (r : Request) :
    (s.serve now r).streams = (s'.serve now r).streams := by
  cases r with
  | createStream spec => exact streams_createStream_congr h spec
  | createBucket spec =>
    rw [serve, serve, createBucket_snd, createBucket_snd]
    exact streams_createStream_congr h _
  | publish subject payload => exact (publish_congr h now subject payload).2
  | fetch name after limit =>
    rw [serve, serve, fetch_snd, fetch_snd]
    exact streams_streamInfo_congr h now name
  | streamInfo name => exact streams_streamInfo_congr h now name
  | bucketInfo name =>
    rw [serve, serve, bucketInfo_snd, bucketInfo_snd]
    exact streams_streamInfo_congr h now _

end Store

namespace Host

variable {α : Type} {h : Host} {work : Store → α × Store}

/-- Work on a store that leaves its bus alone leaves every bus alone. -/
lemma bus_withStore (hwork : ∀ s, (work s).2.bus = s.bus) (url other : String) :
    ((h.withStore url work).2.store other).bus = (h.store other).bus := by
  by_cases hne : url = other
  · subst hne
    rw [store_withStore_self, hwork]
  · rw [store_withStore_of_ne hne]

lemma streams_withStore (hwork : ∀ s, (work s).2.streams = s.streams) (url other : String) :
    ((h.withStore url work).2.store other).streams = (h.store other).streams := by
  by_cases hne : url = other
  · subst hne
    rw [store_withStore_self, hwork]
  · rw [store_withStore_of_ne hne]

end Host

end EdgeNode
