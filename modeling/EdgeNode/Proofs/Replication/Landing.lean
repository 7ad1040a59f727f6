import EdgeNode.Proofs.Replication.Resync
import EdgeNode.Proofs.Store.Routing
/-!
# Where copied messages land

A job names its target stream, and before it copies anything it waits for that stream to be there.
What it copies, however, is published by subject, and the store of the target decides where a
subject goes.  So an accepted message is in the first stream that captures its subject on the
target, whatever the job names; `Copying.lands_in_first_capturing` says that of everything that a
run copies, and that the job keeps to the stream it names in a step just when no subject that it
publishes there has another stream for its first.
-/

namespace EdgeNode

namespace Store

variable {s s' : Store} {name other subject : String} {now : Nat}

/-- The first stream that captures a subject is the only one that is first. -/
lemma IsFirstCapturing.unique (h : s.IsFirstCapturing subject name)
    (h' : s.IsFirstCapturing subject other) : name = other := by
  obtain ⟨⟨stream, hstream, hcap⟩, hfirst⟩ := h
  obtain ⟨⟨stream', hstream', hcap'⟩, hfirst'⟩ := h'
  have hle : name ≤ other := Bytes.ofText_le_iff.1 (hfirst other stream' hstream' hcap')
  have hge : other ≤ name := Bytes.ofText_le_iff.1 (hfirst' name stream hstream hcap)
  exact String.le_antisymm hle hge

/-- The stream of a name was looked at: what was too old is gone from it. -/
def LookedAt (s s' : Store) (now : Nat) (name : String) : Prop :=
  ∃ stream stream', s.streams.get? name = some stream ∧ stream.expire? now = some stream' ∧
    s'.streams.get? name = some stream'

/-- A stream that was looked at has taken nothing. -/
lemma LookedAt.lastSequence_eq (h : s.LookedAt s' now name) {stream stream' : Stream}
    (hbefore : s.streams.get? name = some stream) (hafter : s'.streams.get? name = some stream') :
    stream'.lastSequence = stream.lastSequence := by
  obtain ⟨old, new, hold, hlook, hnew⟩ := h
  obtain rfl := Option.some.inj (hold.symm.trans hbefore)
  obtain rfl := Option.some.inj (hnew.symm.trans hafter)
  exact (Stream.expire?_eq_some hlook).2.1

/-- A question about a stream changes none but that one, which is looked at. -/
lemma get?_streamInfo (s : Store) (now : Nat) (aim name : String) :
    (s.streamInfo now aim).2.streams.get? name = s.streams.get? name ∨
      name = aim ∧ s.LookedAt (s.streamInfo now aim).2 now name := by
  unfold streamInfo
  cases haim : s.streams.get? aim with
  | none => exact .inl rfl
  | some stream =>
    dsimp only
    cases hlook : stream.expire? now with
    | none => exact .inl rfl
    | some stream' =>
      dsimp only
      by_cases hname : aim = name
      · subst hname
        refine .inr ⟨rfl, stream, stream', haim, hlook, ?_⟩
        rw [get?_setStream, if_pos rfl, haim]
        rfl
      · exact .inl (by rw [get?_setStream, if_neg hname])

/-- A publication that is accepted is in the first stream that captures its subject, and in no
other. -/
lemma takesOnly_of_acceptance? (hs : s.streams.Sorted) {payload : Bytes} {m : StoredMessage}
    (h : s.acceptance? now (.publish subject payload) = some (name, m)) :
    s.IsFirstCapturing m.subject name ∧
      s.TakesOnly (s.serve now (.publish subject payload)) name m := by
  rw [acceptance?] at h
  split at h
  · next aim stream number hroute hanswer =>
    obtain ⟨rfl, rfl⟩ := Prod.mk.inj (Option.some.inj h)
    obtain ⟨hstream, -, -⟩ := (Keyed.Sorted.find?_eq_some_iff hs).1 hroute
    have hnumber : number = stream.lastSequence + 1 := by
      rw [publish, hroute] at hanswer
      dsimp only at hanswer
      split at hanswer
      · next happend =>
        obtain rfl := Outcome.ok.inj hanswer
        exact Stream.append_eq_some happend
      · contradiction
    refine ⟨isFirstCapturing_of_route? hs hroute, ?_⟩
    rw [serve, publish_snd hroute, hnumber]
    exact takesOnly_publish hstream subject payload
  · contradiction

end Store

namespace Copying

open Relation (ReflTransGen)
open Store (Request)

variable (r : Copying)

/-- A step while a run is going on, whatever comes of it: one of the run, or one of others. -/
inductive Proceeds (others : Host → Host → Prop) : Situation → Situation → Prop
  | own (w : Situation) : Proceeds others w (r.advance w)
  | others {h h' : Host} {t : StopToken} {stage? : Option Stage} {log : List Copied}
      (hothers : others h h') : Proceeds others ⟨h, t, stage?, log⟩ ⟨h', t, stage?, log⟩

/-- Others may ask the target for anything. -/
def Among (h h' : Host) : Prop :=
  ∃ run, (r.target h').streams = ((r.target h).serveAll run).streams

/-- The messages that the target accepts in the next step of a run. -/
def accepting (w : Situation) : List Copied :=
  w.stage?.elim [] (r.copied w.host)

/-- A message landed in the first stream that captures its subject, and in no other. -/
structure Landed (s s' : Store) (c : Copied) : Prop where
  first : s.IsFirstCapturing c.message.subject c.stream
  taken : s.TakesOnly s' c.stream c.message

/-- What the target accepts is in the stream that the job names, and no other stream has changed.
Where the job reads from the same store, its source may have been looked at. -/
structure KeepsToTarget (w w' : Situation) : Prop where
  named : ∀ c ∈ r.accepting w, c.stream = r.job.targetStream
  others : ∀ name, name ≠ r.job.targetStream →
    (r.target w'.host).streams.get? name = (r.target w.host).streams.get? name ∨
      r.job.sourceUrl = r.job.targetUrl ∧ name = r.job.sourceStream ∧
        (r.target w.host).LookedAt (r.target w'.host) w.host.wallClock name

/-- No subject that the next step of a run publishes on the target has another stream for its first
than the one that the job names. -/
def Unrivalled (w : Situation) : Prop :=
  ∀ stage ∈ w.stage?, ∀ subject payload,
    r.request? stage = some (r.job.targetUrl, .publish subject payload) →
    ∀ name, (r.target w.host).IsFirstCapturing subject name → name = r.job.targetStream

variable {r} {h h' : Host} {t : StopToken} {stage : Stage} {turn : Turn} {w w' : Situation}
  {log : List Copied}

/-! ### One step -/

lemma log_advance (w : Situation) : (r.advance w).log = w.log ++ r.accepting w := by
  obtain ⟨h, t, _ | stage, log⟩ := w
  · exact (List.append_nil log).symm
  · rfl

lemma accepting_some (h : Host) (t : StopToken) (stage : Stage) (log : List Copied) :
    r.accepting ⟨h, t, some stage, log⟩ = r.copied h stage := rfl

/-- Where nothing is published nothing is accepted. -/
lemma copied_eq_nil (hquiet : ∀ url subject payload,
    r.request? stage ≠ some (url, .publish subject payload)) : r.copied h stage = [] := by
  unfold copied
  split
  · exact absurd rfl (hquiet _ _ _)
  · rfl

/-- A step publishes nothing, or it publishes the message at hand. -/
lemma quiet_or_copying (r : Copying) (stage : Stage) :
    (∀ url subject payload, r.request? stage ≠ some (url, .publish subject payload)) ∨
      ∃ cursor m rest, stage = .copying cursor (m :: rest) := by
  rcases stage with _ | _ | _ | _ | _ | _ | ⟨cursor, _ | ⟨m, rest⟩⟩ | _ | _ <;>
    first
    | exact .inr ⟨cursor, m, rest, rfl⟩
    | exact .inl fun _ _ _ => by simp [request?]

lemma subject_of_mem_copied {cursor : Nat} {m : StoredMessage} {rest : List StoredMessage}
    {c : Copied} (hc : c ∈ r.copied h (.copying cursor (m :: rest))) :
    c.message.subject = r.job.targetSubject m.subject := by
  obtain ⟨a, haccepted, rfl⟩ := List.mem_map.1 hc
  have hanswer := Option.mem_toList.1 haccepted
  rw [Store.acceptance?] at hanswer
  split at hanswer
  · obtain rfl := Option.some.inj hanswer
    rfl
  · contradiction

/-- What is accepted landed where its subject is routed to. -/
lemma landed_of_mem_copied (hs : (r.target h).streams.Sorted) {c : Copied}
    (hc : c ∈ r.copied h stage) (hstep : r.step h t stage = (turn, h')) :
    Landed (r.target h) (r.target h') c := by
  rcases quiet_or_copying r stage with hquiet | ⟨cursor, m, rest, rfl⟩
  · rw [copied_eq_nil hquiet] at hc
    contradiction
  obtain ⟨⟨name, m'⟩, haccepted, rfl⟩ := List.mem_map.1 hc
  obtain ⟨hfirst, htaken⟩ :=
    Store.takesOnly_of_acceptance? hs (Option.mem_toList.1 haccepted)
  have hafter : r.target h' = (r.target h).serve h.wallClock
      (.publish (r.job.targetSubject m.subject) m.payload) := (requested_copying hstep).asked
  refine ⟨hfirst, ?_⟩
  rw [hafter]
  exact htaken

/-- The target of a job is asked for one thing in a step, or for nothing. -/
lemma sorted_step (hs : (r.target h).streams.Sorted) (hstep : r.step h t stage = (turn, h')) :
    (r.target h').streams.Sorted := by
  rcases step_request hstep with hsame | ⟨url, q, -, hasked⟩
  · rw [target, hsame]
    exact hs
  · by_cases hurl : url = r.job.targetUrl
    · subst hurl
      rw [target, hasked.asked]
      exact Store.sorted_serve hs _ _
    · rw [target, hasked.others _ hurl]
      exact hs

/-- A step that publishes nothing only looks at streams: at the target stream, or at the source
where the job reads from the same store. -/
lemma others_of_quiet (hstep : r.step h t stage = (turn, h'))
    (hquiet : ∀ url subject payload, r.request? stage ≠ some (url, .publish subject payload))
    {name : String} (hname : name ≠ r.job.targetStream) :
    (r.target h').streams.get? name = (r.target h).streams.get? name ∨
      r.job.sourceUrl = r.job.targetUrl ∧ name = r.job.sourceStream ∧
        (r.target h).LookedAt (r.target h') h.wallClock name := by
  rcases step_request hstep with hsame | ⟨url, q, hq, hasked⟩
  · exact .inl (by rw [target, hsame, target])
  by_cases hurl : url = r.job.targetUrl
  · subst hurl
    rw [target, target, hasked.asked]
    -- what a question about a stream does, be it put to look at the stream or to fetch from it
    have hlook := fun aim => (h.store r.job.targetUrl).get?_streamInfo h.wallClock aim name
    rcases stage with _ | _ | _ | _ | _ | cursor | ⟨_, _ | ⟨m, rest⟩⟩ | _ | _ <;>
      first
      | contradiction
      | obtain ⟨hsame, rfl⟩ := Prod.mk.inj (Option.some.inj hq)
    · exact (hlook r.job.sourceStream).imp_right fun hlooked => ⟨hsame, hlooked⟩
    · exact (hlook r.job.targetStream).imp_right fun hlooked => absurd hlooked.1 hname
    · rw [Store.serve, Store.fetch_snd]
      exact (hlook r.job.sourceStream).imp_right fun hlooked => ⟨hsame, hlooked⟩
    · exact absurd rfl (hquiet _ _ _)
  · exact .inl (by rw [target, hasked.others _ hurl, target])

/-- A publication that is routed to another stream changes that stream, and only that one. -/
lemma keepsToTarget_copying {cursor : Nat} {m : StoredMessage} {rest : List StoredMessage}
    (hs : (r.target h).streams.Sorted) :
    r.KeepsToTarget ⟨h, t, some (.copying cursor (m :: rest)), log⟩
        (r.advance ⟨h, t, some (.copying cursor (m :: rest)), log⟩) ↔
      ∀ name, (r.target h).IsFirstCapturing (r.job.targetSubject m.subject) name →
        name = r.job.targetStream := by
  obtain ⟨turn, h', hstep⟩ : ∃ turn h', r.step h t (.copying cursor (m :: rest)) = (turn, h') :=
    ⟨_, _, rfl⟩
  have hasked : r.target h' = (r.target h).serve h.wallClock
      (.publish (r.job.targetSubject m.subject) m.payload) := (requested_copying hstep).asked
  rw [advance_some, hstep]
  cases hroute : (r.target h).route? (r.job.targetSubject m.subject) with
  | none =>
    -- nobody takes the message: nothing changes, and no stream is first
    have hafter := hasked.trans (Store.publish_snd_of_eq_none hroute _ _)
    have hfree := (Store.uncaptured_iff hs _).2 hroute
    constructor
    · rintro - name ⟨⟨stream, hstream, hcap⟩, -⟩
      exact absurd hcap (hfree name stream hstream)
    · intro _
      refine ⟨fun c hc => ?_, fun name _ => .inl (by rw [hafter])⟩
      rw [accepting_some] at hc
      obtain ⟨⟨stream, hstream, hcap⟩, -⟩ := (landed_of_mem_copied hs hc hstep).first
      rw [subject_of_mem_copied hc] at hcap
      exact absurd hcap (hfree _ stream hstream)
  | some e =>
    obtain ⟨name, stream⟩ := e
    have hfirst := Store.isFirstCapturing_of_route? hs hroute
    obtain ⟨hstream, -, -⟩ := (Keyed.Sorted.find?_eq_some_iff hs).1 hroute
    have htakes : (r.target h).TakesOnly (r.target h') name
        (stream.incoming (r.job.targetSubject m.subject) m.payload h.wallClock) := by
      rw [hasked.trans (Store.publish_snd hroute _ _)]
      exact Store.takesOnly_publish hstream _ _
    constructor
    · intro hkeeps other hother
      obtain rfl := hfirst.unique hother
      by_contra hne
      -- the stream has taken a message, and has not merely been looked at
      obtain ⟨_, after, -, hafter, -, hlast, -⟩ := htakes.taken
      have hnewer : after.lastSequence ≠ stream.lastSequence := by
        rw [hlast]
        exact Nat.succ_ne_self _
      rcases hkeeps.others name hne with hsame | ⟨-, -, hlooked⟩
      · rw [hafter, hstream] at hsame
        exact hnewer (congrArg Stream.lastSequence (Option.some.inj hsame))
      · exact hnewer (hlooked.lastSequence_eq hstream hafter)
    · intro hnamed
      obtain rfl := hnamed name hfirst
      refine ⟨fun c hc => ?_, fun other hne => .inl (htakes.others other hne)⟩
      rw [accepting_some] at hc
      have hlanded := (landed_of_mem_copied hs hc hstep).first
      rw [subject_of_mem_copied hc] at hlanded
      exact hlanded.unique hfirst

/-- **A step keeps to the stream that the job names** just when no subject that it publishes has
another stream for its first. -/
theorem keepsToTarget_iff (hs : (r.target w.host).streams.Sorted) :
    r.KeepsToTarget w (r.advance w) ↔ r.Unrivalled w := by
  obtain ⟨h, t, _ | stage, log⟩ := w
  · exact ⟨fun _ _ hstage => by contradiction, fun _ => ⟨fun _ hc => by contradiction,
      fun _ _ => .inl rfl⟩⟩
  rcases quiet_or_copying r stage with hquiet | ⟨cursor, m, rest, rfl⟩
  · constructor
    · rintro - _ hstage subject payload hq
      obtain rfl := Option.some.inj hstage
      exact absurd hq (hquiet _ _ _)
    · intro _
      refine ⟨fun c hc => ?_, fun name hname => others_of_quiet rfl hquiet hname⟩
      rw [accepting_some, copied_eq_nil hquiet] at hc
      contradiction
  · rw [keepsToTarget_copying hs]
    constructor
    · rintro hnamed _ hstage subject payload hq
      obtain rfl := Option.some.inj hstage
      obtain ⟨-, hrequest⟩ := Prod.mk.inj (Option.some.inj hq)
      obtain ⟨rfl, -⟩ := Request.publish.inj hrequest
      exact hnamed
    · intro hunrivalled
      exact hunrivalled _ rfl _ _ rfl

/-! ### A whole run -/

/-- The streams of the target stay listed by name, whoever asks for what. -/
lemma sorted_proceeds (hs : (r.target w.host).streams.Sorted)
    (hstep : r.Proceeds r.Among w w') : (r.target w'.host).streams.Sorted := by
  cases hstep with
  | own =>
    obtain ⟨h, t, _ | stage, log⟩ := w
    · exact hs
    · exact sorted_step hs rfl
  | others hothers =>
    obtain ⟨run, hrun⟩ := hothers
    rw [hrun]
    exact Store.sorted_serveAll hs run

lemma sorted_run (hs : (r.target w.host).streams.Sorted)
    (hrun : ReflTransGen (r.Proceeds r.Among) w w') : (r.target w'.host).streams.Sorted := by
  induction hrun with
  | refl => exact hs
  | tail _ hstep ih => exact sorted_proceeds ih hstep

/-- Whatever the log of a run shows was accepted in one of its steps. -/
lemma exists_accepting {others : Host → Host → Prop} {w₀ : Situation} {c : Copied}
    (hrun : ReflTransGen (r.Proceeds others) w₀ w) (hc : c ∈ w.log) :
    c ∈ w₀.log ∨ ∃ w₁, ReflTransGen (r.Proceeds others) w₀ w₁ ∧
      ReflTransGen (r.Proceeds others) (r.advance w₁) w ∧ c ∈ r.accepting w₁ := by
  induction hrun with
  | refl => exact .inl hc
  | tail hbefore hstep ih =>
    rename_i w w'
    have hold : c ∈ w.log → c ∈ w₀.log ∨ ∃ w₁, ReflTransGen (r.Proceeds others) w₀ w₁ ∧
        ReflTransGen (r.Proceeds others) (r.advance w₁) w' ∧ c ∈ r.accepting w₁ := by
      intro hc
      refine (ih hc).imp_right ?_
      rintro ⟨w₁, hto, hfrom, hnew⟩
      exact ⟨w₁, hto, hfrom.tail hstep, hnew⟩
    cases hstep with
    | own =>
      rw [log_advance, List.mem_append] at hc
      rcases hc with hc | hnew
      · exact hold hc
      · exact .inr ⟨w, hbefore, .refl, hnew⟩
    | others _ => exact hold hc

lemma proceeds_advanceBy {others : Host → Host → Prop} (n : Nat) (w : Situation) :
    ReflTransGen (r.Proceeds others) w (r.advanceBy n w) := by
  induction n generalizing w with
  | zero => exact .refl
  | succ n ih => exact .head (.own w) (ih (r.advance w))

/-- **Where messages land.**  In a run on a target whose streams are listed by name, among others
who ask the target for anything, every message that the target accepts from the job is in the
stream that was then the first to capture its subject, and in no other.  That is the stream that
the job names just where this one was the first; and in every step the job keeps to the stream that
it names just when no subject that it publishes has another stream for its first. -/
theorem lands_in_first_capturing {h₀ : Host} (hsorted : (r.target h₀).streams.Sorted)
    (hrun : ReflTransGen (r.Proceeds r.Among) ⟨h₀, t, some .findingSource, []⟩ w) :
    (∀ c ∈ w.log, ∃ w₁,
      ReflTransGen (r.Proceeds r.Among) ⟨h₀, t, some .findingSource, []⟩ w₁ ∧
      ReflTransGen (r.Proceeds r.Among) (r.advance w₁) w ∧ c ∈ r.accepting w₁ ∧
      Landed (r.target w₁.host) (r.target (r.advance w₁).host) c ∧
      (c.stream = r.job.targetStream ↔
        (r.target w₁.host).IsFirstCapturing c.message.subject r.job.targetStream)) ∧
    (r.KeepsToTarget w (r.advance w) ↔ r.Unrivalled w) := by
  refine ⟨fun c hc => ?_, keepsToTarget_iff (sorted_run hsorted hrun)⟩
  rcases exists_accepting hrun hc with hc | ⟨w₁, hto, hfrom, hnew⟩
  · contradiction
  · have hs := sorted_run hsorted hto
    have hlanded : Landed (r.target w₁.host) (r.target (r.advance w₁).host) c := by
      obtain ⟨h, t, _ | stage, log⟩ := w₁
      · contradiction
      · exact landed_of_mem_copied hs hnew rfl
    refine ⟨w₁, hto, hfrom, hnew, hlanded, ?_⟩
    constructor
    · intro hnamed
      exact hnamed ▸ hlanded.first
    · intro hfirst
      exact hlanded.first.unique hfirst

/-- The jobs of a site whose backend is elsewhere. -/
def auditedSite : ReplicationTopology :=
  .standard "site" "backend" "/state" ⟨"", "", ""⟩

/-- The job that copies submissions. -/
def audited : Copying where
  job := .toBackend "SUBMIT" "SUBMIT" "MACHINE_ROOM_EVENTS" "backend"
    (some ⟨"choria.submission.in.", "machine_room.submit."⟩)
  topology := auditedSite

/-- A host with one submission, whose backend keeps everything in another stream as well. -/
def auditedHost : Host where
  network :=
    [("backend",
      Store.serveAll {}
        [(1, .createStream { name := "MACHINE_ROOM_EVENTS", subjects := ["machine_room.submit.>"] }),
         (1, .createStream { name := "AUDIT", subjects := ["machine_room.>"] })]),
     (localBrokerUrl,
      Store.serveAll {}
        [(1, .createStream { name := "SUBMIT", subjects := ["choria.submission.in.>"] }),
         (2, .publish "choria.submission.in.a" [1])])]
  wallClock := 4

/-- The job is about to copy the submission. -/
def auditedRun : Situation :=
  audited.advanceBy 6 ⟨auditedHost, 0, some .findingSource, []⟩

/-- The topology is accepted, and the submission does not get where its job says. -/
theorem lands_in_first_capturing_audited :
    auditedSite.validate = .ok () ∧ audited.job ∈ auditedSite.jobs ∧
      (∃ c ∈ (audited.advance auditedRun).log, c.stream = "AUDIT" ∧
        ∃ w, c ∈ audited.accepting w ∧
          ¬ (audited.target w.host).IsFirstCapturing c.message.subject "MACHINE_ROOM_EVENTS") ∧
      ¬ audited.KeepsToTarget auditedRun (audited.advance auditedRun) := by
  have hsorted : (audited.target auditedHost).streams.Sorted :=
    Store.sorted_serveAll Store.sorted_empty _
  have hrun : ReflTransGen (audited.Proceeds audited.Among)
      ⟨auditedHost, 0, some .findingSource, []⟩ auditedRun := proceeds_advanceBy 6 _
  have hlog : (audited.advance auditedRun).log
      = [⟨1, "AUDIT", ⟨1, "machine_room.submit.a", [1], 4⟩⟩] := by decide +kernel
  refine ⟨by decide +kernel, by decide +kernel, ?_, ?_⟩
  · have hmem : ⟨1, "AUDIT", ⟨1, "machine_room.submit.a", [1], 4⟩⟩
        ∈ (audited.advance auditedRun).log := by simp [hlog]
    obtain ⟨w, -, -, hnew, -, hnamed⟩ :=
      (lands_in_first_capturing hsorted (hrun.tail (.own _))).1 _ hmem
    exact ⟨_, hmem, rfl, w, hnew, fun hfirst => absurd (hnamed.2 hfirst) (by decide)⟩
  · rw [(lands_in_first_capturing hsorted hrun).2]
    intro hunrivalled
    have hstage : auditedRun.stage?
        = some (.copying 0 [⟨1, "choria.submission.in.a", [1], 2⟩]) := by decide +kernel
    have hroute : ((audited.target auditedRun.host).route? "machine_room.submit.a").map Prod.fst
        = some "AUDIT" := by decide +kernel
    obtain ⟨⟨name, stream⟩, hfirst, rfl⟩ := Option.map_eq_some_iff.1 hroute
    have hnamed := hunrivalled _ hstage _ _ rfl _
      (Store.isFirstCapturing_of_route? (sorted_run hsorted hrun) hfirst)
    exact absurd hnamed (by decide)

end Copying

end EdgeNode
