import EdgeNode.Proofs.Retry
import EdgeNode.Proofs.Topology.Attempts
import Mathlib.Data.Nat.Find
/-!
# Provisioning is retried as a whole

Provisioning over a broker that fails where a script says so, with any pauses and cancelled at any
time.  Every attempt begins again with a new connection and the first resource; one that no failure
ends is the last, and its report is the result.

What failed attempts made stays.  `Retrying.Sound` is what every turn keeps: the lists of what the
attempts did account for the streams that were not there before, like those of provisioners side by
side.
-/

namespace EdgeNode

lemma Provisioning.step_during_snd {σ : Type} (link : StoreLink σ) (spec : TopologySpec)
    (c : RetryConfig) (jitter : Float) (now : ℕ) (isCancelled : Bool) (world : σ) (attempt : ℕ)
    (delay : Duration) (pass : Pass) :
    ((Provisioning.during attempt delay pass).step link spec c jitter now isCancelled world).2
      = (pass.step link spec world).2 := by
  simp only [Provisioning.step]
  split <;> simp_all

namespace Retrying

/-- What counts at a turn. -/
structure Moment where
  /-- The instant, for pauses. -/
  now : ℕ
  /-- The time of the calendar, for the ages of messages. -/
  wallClock : ℕ
  /-- By how much a pause that begins is stretched. -/
  jitter : Float
  /-- Whether provisioning is cancelled. -/
  isCancelled : Bool

/-- Whether provisioning is under way. -/
inductive Stand where
  /-- It is. -/
  | working (stage : Provisioning)
  /-- It is over. -/
  | ended (result : Outcome (RetryError Error) ProvisionReport)
deriving DecidableEq, Repr

/-- Where it stands after a step from a stage. -/
def Stand.after (stage : Provisioning) :
    Progress Provisioning (Outcome (RetryError Error) ProvisionReport) → Stand
  | .next stage => .working stage
  | .wait _ => .working stage
  | .done result => .ended result

end Retrying

/-- Provisioning and the trial that it goes through. -/
structure Retrying where
  /-- The trial. -/
  trial : Trial
  /-- Where it stands. -/
  stand : Retrying.Stand

namespace Retrying

/-- The beginning. -/
def start (c : RetryConfig) (h : Host) : Retrying where
  trial := { host := h }
  stand := .working (.start c)

/-- The trial at a time of the calendar. -/
def trialAt (s : Retrying) (wallClock : ℕ) : Trial :=
  { s.trial with host := { s.trial.host with wallClock } }

/-- A turn. -/
def turn (url : String) (faults : Faults) (spec : TopologySpec) (c : RetryConfig) (s : Retrying)
    (m : Moment) : Retrying :=
  match s.stand with
  | .ended _ => s
  | .working stage =>
    match stage.step ((StoreLink.toHost url true).faulty faults) spec c m.jitter m.now m.isCancelled
      (s.trialAt m.wallClock) with
    | (progress, trial) => { trial, stand := .after stage progress }

/-- What it has come to after so many turns. -/
def course (url : String) (faults : Faults) (spec : TopologySpec) (c : RetryConfig) (h : Host)
    (moments : ℕ → Moment) : ℕ → Retrying
  | 0 => start c h
  | n + 1 => (course url faults spec c h moments n).turn url faults spec c (moments n)

end Retrying

/-- An attempt created a resource. -/
def Trial.Created (faults : Faults) (t : Trial) (k : ℕ) (r : Resource) : Prop :=
  ∃ asked, t.attempts[k]? = some asked ∧ Attempt.Served (faults k) asked (.create r)

namespace Retrying

open Attempt (Unharmed Going Fell Standing Went)
open Provisioner (Effect)
open Scene (Accounted Fits Made)

/-- Each attempt fell. -/
def AllFell (resources : List Resource) (faults : Faults) (done : ℕ → Done)
    (attempts : List (List Ask)) : Prop :=
  ∀ k asked, attempts[k]? = some asked → Fell resources (faults k) (done k) asked

/-- Another attempt is permitted after so many. -/
def HasRoom (c : RetryConfig) (attempts : ℕ) : Prop :=
  0 < c.maxAttempts → attempts < c.maxAttempts

/-- What holds of the attempts at a stage. -/
inductive Stands (c : RetryConfig) (resources : List Resource) (faults : Faults) (s : Store)
    (done : ℕ → Done) (attempts : List (List Ask)) : Provisioning → Prop
  /-- About to make another. -/
  | ready {delay : Duration} (hfell : AllFell resources faults done attempts)
      (hroom : HasRoom c attempts.length) :
      Stands c resources faults s done attempts (.between (.ready attempts.length delay))
  /-- Pausing after one. -/
  | pausing {delay : Duration} {wake : ℕ} (hfell : AllFell resources faults done attempts)
      (hroom : HasRoom c attempts.length) :
      Stands c resources faults s done attempts (.between (.pausing attempts.length delay wake))
  /-- In one. -/
  | during {past : List (List Ask)} {delay : Duration} {pass : Pass}
      (hpast : AllFell resources faults done past) (hroom : HasRoom c past.length)
      (hstanding : Standing s resources (faults past.length) past attempts (done past.length)
        pass) :
      Stands c resources faults s done attempts (.during (past.length + 1) delay pass)

/-- The retry gives up at a moment, after so many attempts. -/
inductive GaveUp (c : RetryConfig) (m : Moment) (attempts : ℕ) :
    Outcome (RetryError Error) ProvisionReport → Prop
  /-- It is cancelled. -/
  | cancelled (h : m.isCancelled = true) :
      GaveUp c m attempts (.error (.cancelled setupConnection attempts))
  /-- No more attempts are permitted. -/
  | exhausted {e : Error} (hlimit : 0 < c.maxAttempts) (h : attempts = c.maxAttempts) :
      GaveUp c m attempts (.error (.exhausted setupConnection attempts e))
  /-- A pause has no length. -/
  | pauseless {delay : Duration} (h : Duration.ofFloat? (delay.toFloat * m.jitter) = none) :
      GaveUp c m attempts .crash
  /-- The pause after the next failure has none. -/
  | delayless {delay : Duration} (h : c.nextDelay? delay = none) : GaveUp c m attempts .crash

/-- What holds of the attempts in the end; `had` are the moments so far. -/
inductive Ended (c : RetryConfig) (resources : List Resource) (faults : Faults) (s : Store)
    (done : ℕ → Done) (had : Moment → Prop) :
    List (List Ask) → Outcome (RetryError Error) ProvisionReport → Prop
  /-- The last one came through. -/
  | through {past : List (List Ask)} {asked : List Ask}
      (hpast : AllFell resources faults done past)
      (hgoing : Going s resources (faults past.length) (done past.length) asked
        (.looking (done past.length).report [])) :
      Ended c resources faults s done had (past ++ [asked])
        (.ok ⟨past.length + 1, (done past.length).report⟩)
  /-- None did. -/
  | gaveUp {attempts : List (List Ask)} {m : Moment}
      {result : Outcome (RetryError Error) ProvisionReport}
      (hfell : AllFell resources faults done attempts) (hm : had m)
      (h : GaveUp c m attempts.length result) :
      Ended c resources faults s done had attempts result

/-- What holds of the attempts, whether provisioning is over or not. -/
def Holds (c : RetryConfig) (resources : List Resource) (faults : Faults) (s : Store)
    (done : ℕ → Done) (had : Moment → Prop) (attempts : List (List Ask)) : Stand → Prop
  | .working stage => Stands c resources faults s done attempts stage
  | .ended result => Ended c resources faults s done had attempts result

variable {c : RetryConfig} {spec : TopologySpec} {resources : List Resource} {faults : Faults}
  {s : Store} {done : ℕ → Done} {attempts past : List (List Ask)} {asked : List Ask}
  {had had' : Moment → Prop} {url : String} {m : Moment} {stage : Provisioning} {t : Trial}

namespace AllFell

/-- The attempt after those of the past is the last. -/
lemma fell_or_last {last : List Ask} (hpast : AllFell resources faults done past) {k : ℕ}
    (hk : (past ++ [last])[k]? = some asked) :
    Fell resources (faults k) (done k) asked ∨ k = past.length ∧ asked = last := by
  rw [List.getElem?_append] at hk
  split at hk
  · exact .inl (hpast k asked hk)
  · next hle =>
    obtain ⟨hsub, rfl⟩ : k - past.length = 0 ∧ last = asked := by
      simpa [List.getElem?_singleton] using hk
    exact .inr ⟨by omega, rfl⟩

lemma concat (hpast : AllFell resources faults done past)
    (hfell : Fell resources (faults past.length) (done past.length) asked) :
    AllFell resources faults done (past ++ [asked]) := by
  intro k asked' hk
  rcases hpast.fell_or_last hk with hfell' | ⟨rfl, rfl⟩
  · exact hfell'
  · exact hfell

/-- What a later attempt does is nothing to those of the past. -/
lemma update (hpast : AllFell resources faults done past) (more : Done) :
    AllFell resources faults (Function.update done past.length more) past := by
  intro k asked hk
  obtain ⟨hlt, -⟩ := List.getElem?_eq_some_iff.1 hk
  rw [Function.update_of_ne hlt.ne]
  exact hpast k asked hk

end AllFell

lemma Ended.mono {result : Outcome (RetryError Error) ProvisionReport}
    (h : Ended c resources faults s done had attempts result) (hhad : ∀ m, had m → had' m) :
    Ended c resources faults s done had' attempts result := by
  cases h with
  | through hpast hgoing => exact .through hpast hgoing
  | gaveUp hfell hm h => exact .gaveUp hfell (hhad _ hm) h

/-! ### What a turn keeps -/

/-- A failed attempt is followed by a pause, or it was the last. -/
lemma holds_afterAttempt {delay : Duration} {e : Error} (hm : had m)
    (hfell : AllFell resources faults done attempts)
    (hlimit : 0 < c.maxAttempts → attempts.length ≤ c.maxAttempts) :
    Holds c resources faults s done had attempts (.after stage (Provisioning.settle
      (Retry.afterAttempt c m.jitter m.now attempts.length delay (.error e)))) := by
  simp only [Retry.afterAttempt]
  split
  · next hlast => exact .gaveUp hfell hm (.exhausted hlast.1 ((hlimit hlast.1).antisymm hlast.2))
  · next hmore =>
    have hroom : HasRoom c attempts.length := fun hpos => by
      by_contra hle
      exact hmore ⟨hpos, Nat.not_lt.1 hle⟩
    cases hpause : Duration.ofFloat? (delay.toFloat * m.jitter) with
    | none => exact .gaveUp hfell hm (.pauseless hpause)
    | some pause => exact Stands.pausing hfell hroom

/-- A pause goes on, or the next attempt follows; when it is cancelled, it was the last. -/
lemma holds_afterPause {delay : Duration} {wake : ℕ} (hm : had m)
    (hfell : AllFell resources faults done attempts) (hroom : HasRoom c attempts.length) :
    Holds c resources faults s done had attempts
      (.after (.between (.pausing attempts.length delay wake)) (Provisioning.settle
        (Retry.afterPause c m.now m.isCancelled attempts.length delay wake))) := by
  unfold Retry.afterPause
  split
  · next hcancelled => exact .gaveUp hfell hm (.cancelled hcancelled)
  · split
    · exact Stands.pausing hfell hroom
    · split
      · next hdelay => exact .gaveUp hfell hm (.delayless hdelay)
      · exact Stands.ready hfell hroom

/-- Between attempts nothing is asked. -/
lemma Stands.step_between {between : Retry.Stage} (link : StoreLink Trial) (spec : TopologySpec)
    (t : Trial) (hm : had m)
    (hlater : ∀ k, attempts.length ≤ k → done k = [])
    (h : Stands c resources faults s done attempts (.between between)) :
    ∃ progress, (Provisioning.between between).step link spec c m.jitter m.now m.isCancelled t
        = (progress, t) ∧
      Holds c resources faults s done had attempts (.after (.between between) progress) := by
  cases h with
  | @ready delay hfell hroom =>
    cases hcancelled : m.isCancelled with
    | true =>
      have hstep : (Provisioning.between (.ready attempts.length delay)).step link spec c m.jitter
          m.now true t = (.done (.error (.cancelled setupConnection attempts.length)), t) := rfl
      exact ⟨_, hstep, .gaveUp hfell hm (.cancelled hcancelled)⟩
    | false =>
      have hstep : (Provisioning.between (.ready attempts.length delay)).step link spec c m.jitter
          m.now false t = (.next (.during (attempts.length + 1) delay .connecting), t) := rfl
      -- an attempt that has not begun has done nothing
      have hstanding : Standing s resources (faults attempts.length) attempts attempts
          (done attempts.length) .connecting := by
        rw [hlater _ le_rfl]
        exact .connecting rfl
      exact ⟨_, hstep, Stands.during hfell hroom hstanding⟩
  | pausing hfell hroom => exact ⟨_, rfl, holds_afterPause hm hfell hroom⟩

/-- A turn in an attempt adds to what the attempt did. -/
lemma Stands.step_during {attempt : ℕ} {delay : Duration} {pass : Pass} (hm : had m)
    (hs : (t.host.store url).streams.Sorted)
    (hages : ∀ name held, (t.host.store url).spec? name = some held →
      held.AgeFits t.host.wallClock)
    (hlater : ∀ k, t.attempts.length ≤ k → done k = [])
    (h : Stands c spec.resources faults (t.host.store url) done t.attempts
      (.during attempt delay pass)) :
    let after := (Provisioning.during attempt delay pass).step
      ((StoreLink.toHost url true).faulty faults) spec c m.jitter m.now m.isCancelled t
    (after.2.host.store url).streams.Sorted ∧
      ∃ k more, Effect (t.host.store url) (after.2.host.store url) (done k) more ∧
        (∀ j, after.2.attempts.length ≤ j → Function.update done k more j = []) ∧
        Holds c spec.resources faults (after.2.host.store url) (Function.update done k more) had
          after.2.attempts (.after (.during attempt delay pass) after.1) := by
  intro after
  cases h with
  | @during past delay pass hpast hroom hstanding =>
    obtain ⟨hsorted, more, asked, hattempts, heffect, hwent⟩ := hstanding.step hs hages
    have hsnd : after.2 = (pass.step ((StoreLink.toHost url true).faulty faults) spec t).2 :=
      Provisioning.step_during_snd ..
    rw [hsnd]
    refine ⟨hsorted, past.length, more, heffect, fun j hj => ?_, ?_⟩
    · rw [hattempts, List.length_append, List.length_singleton] at hj
      rw [Function.update_of_ne (by omega)]
      exact hlater j (hstanding.length_le.trans hj)
    · -- from here on only the lists as they are now count
      have hpast' := hpast.update more
      rw [← Function.update_self past.length more done] at hwent
      generalize Function.update done past.length more = done' at hpast' hwent ⊢
      rw [hattempts]
      simp only [after, Provisioning.step]
      generalize pass.step ((StoreLink.toHost url true).faulty faults) spec t = before at hwent ⊢
      obtain ⟨progress, t'⟩ := before
      cases hwent with
      | on hgoing => exact Stands.during hpast' hroom (.going rfl hgoing)
      | through hgoing => exact Ended.through hpast' hgoing
      | fell hfell =>
        have hlength : past.length + 1 = (past ++ [asked]).length := by simp
        rw [hlength]
        refine holds_afterAttempt hm (hpast'.concat hfell) fun hpos => ?_
        rw [← hlength]
        exact hroom hpos

/-- What holds of provisioning at any time, after what its attempts did. -/
structure Sound (url : String) (faults : Faults) (spec : TopologySpec) (c : RetryConfig)
    (before : Store) (had : Moment → Prop) (s : Retrying) (done : ℕ → Done) : Prop where
  sorted : (s.trial.host.store url).streams.Sorted
  accounted : Accounted before (s.trial.host.store url) done
  later : ∀ k, s.trial.attempts.length ≤ k → done k = []
  holds : Holds c spec.resources faults (s.trial.host.store url) done had s.trial.attempts s.stand

namespace Sound

variable {before : Store} {p : Retrying} {h : Host} {moments : ℕ → Moment}

lemma start (hsorted : (h.store url).streams.Sorted) :
    Sound url faults spec c (h.store url) had (start c h) fun _ => [] where
  sorted := hsorted
  accounted := .start _
  later _ _ := rfl
  holds := Stands.ready (fun k asked hk => absurd hk (by simp [Retrying.start])) fun hpos => hpos

/-- Each attempt fell, or the others did and the last goes on or came through. -/
lemma fell_or_going (hp : Sound url faults spec c before had p done) :
    (AllFell spec.resources faults done p.trial.attempts ∧
      ∀ report, p.stand ≠ .ended (.ok report)) ∨
    ∃ past asked pass, p.trial.attempts = past ++ [asked] ∧
      AllFell spec.resources faults done past ∧
      Going (p.trial.host.store url) spec.resources (faults past.length) (done past.length) asked
        pass ∧
      ((∃ delay, p.stand = .working (.during (past.length + 1) delay pass)) ∨
        pass = .looking (done past.length).report [] ∧
          p.stand = .ended (.ok ⟨past.length + 1, (done past.length).report⟩)) := by
  obtain ⟨⟨host, attempts⟩, stand⟩ := p
  cases stand with
  | working stage =>
    have hholds : Stands c spec.resources faults (host.store url) done attempts stage := hp.holds
    cases hholds with
    | ready hfell _ => exact .inl ⟨hfell, by simp⟩
    | pausing hfell _ => exact .inl ⟨hfell, by simp⟩
    | during hpast _ hstanding =>
      generalize hlast : done _ = last at hstanding
      cases hstanding with
      | connecting ht =>
        subst ht
        exact .inl ⟨hpast, by simp⟩
      | going ht hgoing =>
        subst hlast
        exact .inr ⟨_, _, _, ht, hpast, hgoing, .inl ⟨_, rfl⟩⟩
  | ended result =>
    have hholds : Ended c spec.resources faults (host.store url) done had attempts result :=
      hp.holds
    cases hholds with
    | gaveUp hfell _ hgaveUp =>
      refine .inl ⟨hfell, fun report hover => ?_⟩
      obtain rfl := Stand.ended.inj hover
      cases hgaveUp
    | through hpast hgoing => exact .inr ⟨_, _, _, rfl, hpast, hgoing, .inr ⟨rfl, rfl⟩⟩

/-- An attempt goes on, or it fell. -/
lemma attempt (hp : Sound url faults spec c before had p done) {k : ℕ}
    (hk : p.trial.attempts[k]? = some asked) :
    Fell spec.resources (faults k) (done k) asked ∨
      ∃ pass, Going (p.trial.host.store url) spec.resources (faults k) (done k) asked pass := by
  rcases hp.fell_or_going with ⟨hfell, -⟩ | ⟨past, last, pass, hattempts, hpast, hgoing, -⟩
  · exact .inl (hfell k asked hk)
  · rw [hattempts] at hk
    rcases hpast.fell_or_last hk with hfell | ⟨rfl, rfl⟩
    · exact .inl hfell
    · exact .inr ⟨pass, hgoing⟩

lemma isPrefix (hp : Sound url faults spec c before had p done) (k : ℕ) :
    (done k).map Prod.fst <+: spec.resources := by
  rcases Nat.lt_or_ge k p.trial.attempts.length with hlt | hle
  · rcases hp.attempt (List.getElem?_eq_getElem hlt) with hfell | ⟨pass, hgoing⟩
    · exact hfell.isPrefix
    · exact hgoing.did.isPrefix
  · rw [hp.later k hle]
    exact List.nil_prefix

/-- **Every turn keeps it.** -/
theorem turn (hp : Sound url faults spec c before had p done) (hm : had m)
    (hfits : Fits before (fun _ : ℕ => spec) m.wallClock) :
    ∃ done', Sound url faults spec c before had (p.turn url faults spec c m) done' := by
  obtain ⟨trial, stand⟩ := p
  cases stand with
  | ended result => exact ⟨done, hp⟩
  | working stage =>
    have hstands : Stands c spec.resources faults (trial.host.store url) done trial.attempts
        stage := hp.holds
    cases stage with
    | between between =>
      obtain ⟨progress, hstep, hholds⟩ := hstands.step_between
        ((StoreLink.toHost url true).faulty faults) spec
        (trialAt ⟨trial, .working (.between between)⟩ m.wallClock) hm hp.later
      refine ⟨done, ?_⟩
      simp only [Retrying.turn, hstep]
      exact ⟨hp.sorted, hp.accounted, hp.later, hholds⟩
    | during attempt delay pass =>
      obtain ⟨hsorted, k, more, heffect, hlater, hholds⟩ := Stands.step_during
        (t := trialAt ⟨trial, .working (.during attempt delay pass)⟩ m.wallClock) hm hp.sorted
        (fun name held hheld => hp.accounted.ageFits hp.isPrefix hfits hheld) hp.later hstands
      exact ⟨_, hsorted, hp.accounted.effect heffect, hlater, hholds⟩

lemma mono (hp : Sound url faults spec c before had p done) (hhad : ∀ m, had m → had' m) :
    Sound url faults spec c before had' p done := by
  obtain ⟨trial, stand⟩ := p
  refine ⟨hp.sorted, hp.accounted, hp.later, ?_⟩
  cases stand with
  | working stage => exact hp.holds
  | ended result => exact Ended.mono hp.holds hhad

/-- And so it holds after any number of turns. -/
theorem course (hsorted : (h.store url).streams.Sorted)
    (hfits : ∀ n, Fits (h.store url) (fun _ : ℕ => spec) (moments n).wallClock) (n : ℕ) :
    ∃ done, Sound url faults spec c (h.store url) (fun m => ∃ k < n, moments k = m)
      (course url faults spec c h moments n) done := by
  induction n with
  | zero => exact ⟨_, start hsorted⟩
  | succ n ih =>
    obtain ⟨done, hp⟩ := ih
    have hp' : Sound url faults spec c (h.store url) (fun m => ∃ k < n + 1, moments k = m) _ done :=
      hp.mono fun m ⟨k, hk, hm⟩ => ⟨k, hk.trans n.lt_succ_self, hm⟩
    exact hp'.turn ⟨n, n.lt_succ_self, rfl⟩ (hfits n)

end Sound

/-! ### From turn to turn -/

section Turns

variable {p : Retrying} {h : Host} {moments : ℕ → Moment} {n n' : ℕ} {k : ℕ}

lemma turn_of_over {result : Outcome (RetryError Error) ProvisionReport}
    (hover : p.stand = .ended result) (m : Moment) : p.turn url faults spec c m = p := by
  simp only [turn, hover]

lemma turn_of_working (hworking : p.stand = .working stage) (m : Moment) :
    p.turn url faults spec c m =
      let after := stage.step ((StoreLink.toHost url true).faulty faults) spec c m.jitter m.now
        m.isCancelled (p.trialAt m.wallClock)
      { trial := after.2, stand := .after stage after.1 } := by
  simp only [turn, hworking]

lemma course_of_over {result : Outcome (RetryError Error) ProvisionReport}
    (hover : (course url faults spec c h moments n).stand = .ended result) (hle : n ≤ n') :
    course url faults spec c h moments n' = course url faults spec c h moments n := by
  induction n', hle using Nat.le_induction with
  | base => rfl
  | succ n' _ ih => rw [course, ih, turn_of_over hover]

/-- What was asked stays noted down, and more may follow. -/
lemma grows_turn (m : Moment) (hk : p.trial.attempts[k]? = some asked) :
    ∃ more, (p.turn url faults spec c m).trial.attempts[k]? = some (asked ++ more) := by
  have hsame : ∃ more, p.trial.attempts[k]? = some (asked ++ more) := ⟨[], by simpa using hk⟩
  cases hstand : p.stand with
  | ended result => rwa [turn_of_over hstand]
  | working stage =>
    rw [turn_of_working hstand]
    rcases stage with ⟨⟨attempts, delay⟩ | ⟨attempts, delay, wake⟩⟩ | ⟨attempt, delay, pass⟩
    · simp only [Provisioning.step]
      split <;> exact hsame
    · exact hsame
    · simp only [Provisioning.step_during_snd, Pass.step_faulty_attempts]
      cases pass.ask? with
      | none => exact hsame
      | some ask => exact Trial.note_grows _ ask hk

lemma grows_course (hle : n ≤ n')
    (hk : (course url faults spec c h moments n).trial.attempts[k]? = some asked) :
    ∃ more, (course url faults spec c h moments n').trial.attempts[k]? = some (asked ++ more) := by
  induction n', hle using Nat.le_induction with
  | base => exact ⟨[], by simpa using hk⟩
  | succ n' _ ih =>
    obtain ⟨more, hmore⟩ := ih
    obtain ⟨more', hmore'⟩ := grows_turn (moments n') hmore
    exact ⟨more ++ more', by rw [course, hmore', List.append_assoc]⟩

lemma length_course (hle : n ≤ n') : (course url faults spec c h moments n).trial.attempts.length
    ≤ (course url faults spec c h moments n').trial.attempts.length := by
  by_contra hlt
  obtain ⟨more, hmore⟩ := grows_course hle (List.getElem?_eq_getElem (Nat.not_le.1 hlt))
  exact absurd (List.getElem?_eq_some_iff.1 hmore).1 (Nat.lt_irrefl _)

/-- An attempt comes nearer to its end, or it has ended. -/
lemma turn_during {attempt : ℕ} {delay : Duration} {pass : Pass}
    (hduring : p.stand = .working (.during attempt delay pass)) (m : Moment) :
    (∃ pass', (p.turn url faults spec c m).stand = .working (.during attempt delay pass') ∧
      pass'.stepsLeft spec < pass.stepsLeft spec) ∨
    (∃ stage, (p.turn url faults spec c m).stand = .working (.between stage)) ∨
    ∃ result, (p.turn url faults spec c m).stand = .ended result := by
  rw [turn_of_working hduring]
  simp only [Provisioning.step]
  rcases hstep : pass.step ((StoreLink.toHost url true).faulty faults) spec (p.trialAt m.wallClock)
    with ⟨pass' | wake | result, trial⟩
  · exact .inl ⟨pass', rfl, Pass.stepsLeft_lt hstep⟩
  · exact absurd hstep Pass.step_ne_wait
  · refine .inr ?_
    simp only
    cases hturn : Retry.afterAttempt c m.jitter m.now attempt delay result with
    | next stage => exact .inl ⟨stage, rfl⟩
    | wait wake => exact absurd hturn Retry.afterAttempt_ne_wait
    | success _ _ | cancelled _ | exhausted _ _ | crash => exact .inr ⟨_, rfl⟩

/-- A pause ends, unless it is too early for that or provisioning ends with it. -/
lemma turn_pausing {attempts wake : ℕ} {delay : Duration}
    (hpausing : p.stand = .working (.between (.pausing attempts delay wake))) (m : Moment) :
    (∃ result, (p.turn url faults spec c m).stand = .ended result) ∨
    (∃ delay', (p.turn url faults spec c m).stand
      = .working (.between (.ready attempts delay'))) ∨
    m.now < wake ∧ (p.turn url faults spec c m).stand
      = .working (.between (.pausing attempts delay wake)) := by
  rw [turn_of_working hpausing]
  simp only [Provisioning.step, Retry.afterPause]
  split
  · exact .inl ⟨_, rfl⟩
  · split
    · next hearly => exact .inr (.inr ⟨hearly, rfl⟩)
    · cases c.nextDelay? delay with
      | none => exact .inl ⟨_, rfl⟩
      | some delay' => exact .inr (.inl ⟨delay', rfl⟩)

/-- The next attempt begins, unless provisioning is cancelled. -/
lemma turn_ready {attempts : ℕ} {delay : Duration}
    (hready : p.stand = .working (.between (.ready attempts delay))) (m : Moment) :
    (∃ result, (p.turn url faults spec c m).stand = .ended result) ∨
    (p.turn url faults spec c m).stand
      = .working (.during (attempts + 1) delay .connecting) := by
  rw [turn_of_working hready]
  simp only [Provisioning.step]
  split
  · exact .inl ⟨_, rfl⟩
  · exact .inr rfl

/-- With a connection there is an attempt more. -/
lemma length_turn_connecting {attempt : ℕ} {delay : Duration}
    (hconnecting : p.stand = .working (.during attempt delay .connecting)) (m : Moment) :
    (p.turn url faults spec c m).trial.attempts.length = p.trial.attempts.length + 1 := by
  rw [turn_of_working hconnecting]
  simp only [Provisioning.step_during_snd, Pass.step_faulty_attempts]
  exact List.length_append

end Turns

/-! ### The attempt that comes through -/

namespace Sound

variable {before : Store} {p : Retrying} {k : ℕ}

/-- An attempt without a failure came through, or it is the one that goes on. -/
lemma over_or_during (hp : Sound url faults spec c before had p done)
    (hk : p.trial.attempts[k]? = some asked) (hclean : Unharmed (faults k) asked) :
    (∃ report, p.stand = .ended (.ok report)) ∨
      ∃ delay pass, p.stand = .working (.during (k + 1) delay pass) := by
  rcases hp.fell_or_going with ⟨hfell, -⟩ | ⟨past, last, pass, hattempts, hpast, -, hstand⟩
  · exact absurd hclean (hfell k asked hk).not_unharmed
  · rw [hattempts] at hk
    rcases hpast.fell_or_last hk with hfell | ⟨rfl, -⟩
    · exact absurd hclean hfell.not_unharmed
    · rcases hstand with ⟨delay, hduring⟩ | ⟨-, hover⟩
      · exact .inr ⟨delay, pass, hduring⟩
      · exact .inl ⟨_, hover⟩

/-- The report is about the last attempt, which came through. -/
lemma of_over_ok {report : ProvisionReport} (hp : Sound url faults spec c before had p done)
    (hover : p.stand = .ended (.ok report)) :
    ∃ past asked, p.trial.attempts = past ++ [asked] ∧
      Going (p.trial.host.store url) spec.resources (faults past.length) (done past.length) asked
        (.looking (done past.length).report []) ∧
      report = ⟨past.length + 1, (done past.length).report⟩ := by
  rcases hp.fell_or_going with ⟨-, hnot⟩ | ⟨past, last, pass, hattempts, -, hgoing, hstand⟩
  · exact absurd hover (hnot report)
  · rw [hover] at hstand
    rcases hstand with ⟨delay, hduring⟩ | ⟨rfl, hreport⟩
    · contradiction
    · obtain rfl := Outcome.ok.inj (Stand.ended.inj hreport)
      exact ⟨past, last, hattempts, hgoing, rfl⟩

/-- Without a report the retry gave up. -/
lemma of_over {result : Outcome (RetryError Error) ProvisionReport}
    (hp : Sound url faults spec c before had p done) (hover : p.stand = .ended result) :
    (∃ report, result = .ok report) ∨
      ∃ m, had m ∧ GaveUp c m p.trial.attempts.length result := by
  obtain ⟨⟨host, attempts⟩, stand⟩ := p
  obtain rfl : stand = .ended result := hover
  have hholds : Ended c spec.resources faults (host.store url) done had attempts result := hp.holds
  cases hholds with
  | through _ _ => exact .inl ⟨_, rfl⟩
  | gaveUp _ hm hgaveUp => exact .inr ⟨_, hm, hgaveUp⟩

end Sound

section Course

variable {h : Host} {moments : ℕ → Moment} {n n' k : ℕ}

/-- An attempt ends, unless provisioning is over. -/
lemma exists_between (hnever : ∀ n result, (course url faults spec c h moments n).stand
      ≠ .ended result) {attempt : ℕ} {delay : Duration} {pass : Pass}
    (hduring : (course url faults spec c h moments n).stand
      = .working (.during attempt delay pass)) :
    ∃ n' ≥ n, ∃ stage, (course url faults spec c h moments n').stand
      = .working (.between stage) := by
  -- the pass has fewer and fewer steps left
  induction hleft : pass.stepsLeft spec using Nat.strong_induction_on generalizing n pass with
  | _ left ih =>
    rcases turn_during hduring (moments n) with ⟨pass', hnext, hlt⟩ | ⟨stage, hnext⟩ |
      ⟨result, hnext⟩
    · obtain ⟨n', hle, hbetween⟩ := ih _ (hleft ▸ hlt) (n := n + 1) hnext rfl
      exact ⟨n', n.le_succ.trans hle, hbetween⟩
    · exact ⟨n + 1, n.le_succ, stage, hnext⟩
    · exact absurd hnext (hnever (n + 1) result)

/-- An attempt in which nothing ever fails comes through. -/
lemma exists_over_ok (hsorted : (h.store url).streams.Sorted)
    (hfits : ∀ n, Fits (h.store url) (fun _ : ℕ => spec) (moments n).wallClock)
    (hk : k < (course url faults spec c h moments n).trial.attempts.length)
    (hclean : ∀ n asked, (course url faults spec c h moments n).trial.attempts[k]? = some asked →
      Unharmed (faults k) asked) :
    ∃ n report, (course url faults spec c h moments n).stand = .ended (.ok report) := by
  by_contra hnot
  -- then it would go on for ever
  have hduring : ∀ n' ≥ n, ∃ delay pass, (course url faults spec c h moments n').stand
      = .working (.during (k + 1) delay pass) := by
    intro n' hle
    obtain ⟨done, hp⟩ : ∃ done, Sound url faults spec c _ _ (course url faults spec c h moments n')
        done := Sound.course hsorted hfits n'
    have hk' := List.getElem?_eq_getElem (hk.trans_le (length_course hle))
    exact (hp.over_or_during hk' (hclean n' _ hk')).resolve_left fun hover => hnot ⟨n', hover⟩
  have hnever : ∀ n' result, (course url faults spec c h moments n').stand ≠ .ended result := by
    intro n' result hover
    obtain ⟨delay, pass, hlater⟩ := hduring (max n n') (le_max_left ..)
    rw [course_of_over hover (le_max_right ..), hover] at hlater
    contradiction
  obtain ⟨delay, pass, hnow⟩ := hduring n le_rfl
  obtain ⟨n', hle, stage, hbetween⟩ := exists_between hnever hnow
  obtain ⟨delay', pass', hlater⟩ := hduring n' hle
  rw [hbetween] at hlater
  exact absurd (Stand.working.inj hlater) (by simp)

/-- In the attempt that came through nothing ever failed. -/
lemma unharmed_of_over_ok {report : ProvisionReport} {past : List (List Ask)} {last : List Ask}
    (hover : (course url faults spec c h moments n).stand = .ended (.ok report))
    (hattempts : (course url faults spec c h moments n).trial.attempts = past ++ [last])
    (hclean : Unharmed (faults past.length) last)
    (hk : (course url faults spec c h moments n').trial.attempts[past.length]? = some asked) :
    Unharmed (faults past.length) asked := by
  have hlast : (course url faults spec c h moments n).trial.attempts[past.length]? = some last := by
    rw [hattempts]
    exact List.getElem?_concat_length
  -- after its end nothing changes, and before it less was asked
  rcases Nat.le_total n n' with hle | hle
  · rw [course_of_over hover hle, hlast] at hk
    obtain rfl := Option.some.inj hk
    exact hclean
  · obtain ⟨more, hmore⟩ := grows_course hle hk
    obtain rfl : last = asked ++ more := Option.some.inj (hlast.symm.trans hmore)
    intro i hi
    exact hclean i (by rw [List.length_append]; omega)

/-! ### Going on -/

/-- A pause ends when its time has come. -/
lemma exists_ready (hnever : ∀ n result, (course url faults spec c h moments n).stand
      ≠ .ended result) (htime : ∀ t, ∃ n, ∀ n' ≥ n, t ≤ (moments n').now) {attempts wake : ℕ}
    {delay : Duration} (hpausing : (course url faults spec c h moments n).stand
      = .working (.between (.pausing attempts delay wake))) :
    ∃ n' ≥ n, ∃ delay', (course url faults spec c h moments n').stand
      = .working (.between (.ready attempts delay')) := by
  -- until the pause is over, nothing changes
  have hturn : ∀ {n}, (course url faults spec c h moments n).stand
      = .working (.between (.pausing attempts delay wake)) →
      (∃ delay', (course url faults spec c h moments (n + 1)).stand
        = .working (.between (.ready attempts delay'))) ∨
      (moments n).now < wake ∧ (course url faults spec c h moments (n + 1)).stand
        = .working (.between (.pausing attempts delay wake)) := by
    intro n hpausing
    refine (turn_pausing hpausing (moments n)).resolve_left ?_
    rintro ⟨result, hended⟩
    exact hnever (n + 1) result hended
  -- but from some turn on it is late enough
  obtain ⟨last, hlast⟩ := htime wake
  by_contra hnot
  have hstays : ∀ n' ≥ n, (course url faults spec c h moments n').stand
      = .working (.between (.pausing attempts delay wake)) := by
    intro n' hle
    induction n', hle using Nat.le_induction with
    | base => exact hpausing
    | succ n' hle ih =>
      rcases hturn ih with hready | ⟨-, hstill⟩
      · exact absurd ⟨n' + 1, hle.trans n'.le_succ, hready⟩ hnot
      · exact hstill
  rcases hturn (hstays (max n last) (le_max_left ..)) with hready | ⟨hearly, -⟩
  · exact hnot ⟨_, (le_max_left n last).trans (Nat.le_succ _), hready⟩
  · exact Nat.not_lt.2 (hlast _ (le_max_right ..)) hearly

/-- Another attempt is made. -/
lemma exists_more (hnever : ∀ n result, (course url faults spec c h moments n).stand
      ≠ .ended result) (htime : ∀ t, ∃ n, ∀ n' ≥ n, t ≤ (moments n').now) (n : ℕ) :
    ∃ n', (course url faults spec c h moments n).trial.attempts.length
      < (course url faults spec c h moments n').trial.attempts.length := by
  obtain ⟨n₁, hle₁, stage, hbetween⟩ : ∃ n₁ ≥ n, ∃ stage,
      (course url faults spec c h moments n₁).stand = .working (.between stage) := by
    cases hstand : (course url faults spec c h moments n).stand with
    | ended result => exact absurd hstand (hnever n result)
    | working stage =>
      cases stage with
      | between stage => exact ⟨n, le_rfl, stage, hstand⟩
      | during attempt delay pass => exact exists_between hnever hstand
  obtain ⟨n₂, hle₂, attempts, delay, hready⟩ : ∃ n₂ ≥ n₁, ∃ attempts delay,
      (course url faults spec c h moments n₂).stand
        = .working (.between (.ready attempts delay)) := by
    cases stage with
    | ready attempts delay => exact ⟨n₁, le_rfl, attempts, delay, hbetween⟩
    | pausing attempts delay wake =>
      obtain ⟨n₂, hle₂, delay', hready⟩ := exists_ready hnever htime hbetween
      exact ⟨n₂, hle₂, attempts, delay', hready⟩
  have hconnecting : (course url faults spec c h moments (n₂ + 1)).stand
      = .working (.during (attempts + 1) delay .connecting) := by
    refine (turn_ready hready (moments n₂)).resolve_left ?_
    rintro ⟨result, hended⟩
    exact hnever (n₂ + 1) result hended
  refine ⟨n₂ + 2, ?_⟩
  have hle : (course url faults spec c h moments n).trial.attempts.length
      ≤ (course url faults spec c h moments (n₂ + 1)).trial.attempts.length :=
    length_course ((hle₁.le.trans hle₂).trans n₂.le_succ)
  rw [course, length_turn_connecting hconnecting]
  exact Nat.lt_succ_of_le hle

end Course

/-! ### What was created -/

namespace Sound

variable {before : Store} {p : Retrying} {k : ℕ} {r : Resource}

/-- What an attempt asked to be created, and not in vain, is what it created. -/
lemma created_iff (hp : Sound url faults spec c before had p done) :
    p.trial.Created faults k r ↔ ∃ i, Made done (k, i) r := by
  have hmem : (∃ i, Made done (k, i) r) ↔ (r, .created) ∈ done k := by
    rw [List.mem_iff_getElem?]
    rfl
  rw [hmem]
  constructor
  · rintro ⟨asked, hk, hserved⟩
    rcases hp.attempt hk with hfell | ⟨pass, hgoing⟩
    · exact hfell.created_iff.1 hserved
    · exact hgoing.created_iff.1 hserved
  · intro hcreated
    have hlt : k < p.trial.attempts.length := by
      by_contra hle
      rw [hp.later k (Nat.not_lt.1 hle)] at hcreated
      contradiction
    have hk := List.getElem?_eq_getElem hlt
    rcases hp.attempt hk with hfell | ⟨pass, hgoing⟩
    · exact ⟨_, hk, hfell.created_iff.2 hcreated⟩
    · exact ⟨_, hk, hgoing.created_iff.2 hcreated⟩

/-- The resources that were created are among the first, up to one, that all are there. -/
lemma exists_first (hp : Sound url faults spec c before had p done) :
    ∃ first, (∀ k r, p.trial.Created faults k r → r ∈ spec.resources.take first) ∧
      ∀ r ∈ spec.resources.take first, (p.trial.host.store url).spec? r.backingName ≠ none := by
  classical
  -- the attempt that came furthest
  have hbound : ∀ k, (done k).length ≤ spec.resources.length := fun k => by
    simpa using (hp.isPrefix k).length_le
  let first := Nat.findGreatest (fun i => ∃ k, (done k).length = i) spec.resources.length
  have hle : ∀ k, (done k).length ≤ first := fun k => Nat.le_findGreatest (hbound k) ⟨k, rfl⟩
  obtain ⟨furthest, hfurthest⟩ : ∃ k, (done k).length = first :=
    Nat.findGreatest_spec (P := fun i => ∃ k, (done k).length = i) (hbound 0) ⟨0, rfl⟩
  have htake : ∀ k, (done k).map Prod.fst = spec.resources.take (done k).length := fun k => by
    simpa using List.prefix_iff_eq_take.1 (hp.isPrefix k)
  refine ⟨first, fun k r hcreated => ?_, fun r hr => ?_⟩
  · obtain ⟨i, hmade⟩ := hp.created_iff.1 hcreated
    have hdone : r ∈ (done k).map Prod.fst :=
      List.mem_map.2 ⟨_, List.mem_iff_getElem?.2 ⟨i, hmade⟩, rfl⟩
    rw [htake k] at hdone
    exact List.take_subset_take_left _ (hle k) hdone
  · rw [← hfurthest, ← htake] at hr
    obtain ⟨e, he, rfl⟩ := List.mem_map.1 hr
    exact hp.accounted.held furthest e he

/-- Each stream was there before, or it was created as asked for. -/
lemma spec?_iff (hp : Sound url faults spec c before had p done) {name : String}
    {held : StreamSpec} : (p.trial.host.store url).spec? name = some held ↔
      before.spec? name = some held ∨
        ∃ k r, p.trial.Created faults k r ∧ r.backingName = name ∧ r.backingSpec = held := by
  constructor
  · intro hheld
    refine (hp.accounted.owned name held hheld).imp_right ?_
    rintro ⟨⟨k, i⟩, r, hmade, hname, hspec⟩
    exact ⟨k, r, hp.created_iff.2 ⟨i, hmade⟩, hname, hspec⟩
  · rintro (hbefore | ⟨k, r, hcreated, rfl, rfl⟩)
    · exact hp.accounted.kept name held hbefore
    · obtain ⟨i, hmade⟩ := hp.created_iff.1 hcreated
      exact (hp.accounted.created _ _ hmade).2

/-- There are as many attempts as connections. -/
lemma count_connect (hp : Sound url faults spec c before had p done) :
    p.trial.attempts.flatten.count .connect = p.trial.attempts.length := by
  have hone : ∀ asked ∈ p.trial.attempts, asked.count .connect = 1 := by
    intro asked hmem
    obtain ⟨k, hk⟩ := List.mem_iff_getElem?.1 hmem
    rcases hp.attempt hk with hfell | ⟨pass, hgoing⟩
    · exact hfell.count_connect
    · exact hgoing.count_connect
  rw [List.count_flatten, List.map_congr_left hone, List.map_const', List.sum_replicate_nat,
    Nat.mul_one]

/-- What an earlier attempt created is reported to have been there. -/
lemma existed_of_created {report : ProvisionReport}
    (hp : Sound url faults spec c before had p done) (hover : p.stand = .ended (.ok report))
    (hearlier : k + 1 < report.attempts) (hcreated : p.trial.Created faults k r) {i : ℕ}
    {r' : Resource} (hi : spec.resources[i]? = some r') (hname : r'.backingName = r.backingName) :
    report.outcomes[i]? = some (r'.name, .existed) := by
  obtain ⟨past, asked, -, hgoing, rfl⟩ := hp.of_over_ok hover
  rw [hgoing.resources_eq, List.getElem?_map] at hi
  obtain ⟨⟨r'', e⟩, hentry, rfl⟩ := Option.map_eq_some_iff.1 hi
  obtain ⟨j, hmade⟩ := hp.created_iff.1 hcreated
  have hexisted : e = .existed := by
    cases e with
    | existed => rfl
    | created =>
      -- a stream is created once
      have hplace := hp.accounted.once (past.length, i) r'' (k, j) r hentry hmade hname
      have hk : past.length = k := congrArg Prod.fst hplace
      simp only at hearlier
      omega
  rw [Done.report, List.getElem?_map, hentry, hexisted]
  rfl

end Sound

/-- **Provisioning is retried as a whole.**  At any time each attempt began with a new connection
and asked for the first resources in order, up to one request that failed or none.  Provisioning
succeeds exactly when an attempt is made in which nothing fails; the report counts the connections,
names all resources in order, and says of what an earlier attempt created that it was there.
Provisioning ends otherwise only where it is cancelled, no more attempts are permitted or a pause
has no length, and as long as time passes it goes on until it ends.  At any time the resources that
were created are among the first ones, up to one, that all exist, and besides the streams from
before there are just these. -/
theorem retried_whole (c : RetryConfig) (faults : Faults) {h : Host} {moments : ℕ → Moment}
    (hsorted : (h.store url).streams.Sorted)
    (hfits : ∀ n, Fits (h.store url) (fun _ : ℕ => spec) (moments n).wallClock) :
    let s := course url faults spec c h moments
    let store := fun n => (s n).trial.host.store url
    (∀ n k asked, (s n).trial.attempts[k]? = some asked → ∃ done,
      Fell spec.resources (faults k) done asked ∨
        ∃ pass, Going (store n) spec.resources (faults k) done asked pass) ∧
    ((∃ n report, (s n).stand = .ended (.ok report)) ↔
      ∃ k, (∃ n, k < (s n).trial.attempts.length) ∧
        ∀ n asked, (s n).trial.attempts[k]? = some asked → Unharmed (faults k) asked) ∧
    (∀ n report, (s n).stand = .ended (.ok report) →
      report.attempts = (s n).trial.attempts.flatten.count .connect ∧
      report.outcomes.map Prod.fst = spec.resources.map Resource.name ∧
      ∀ k r, k + 1 < report.attempts → (s n).trial.Created faults k r → ∀ (i : ℕ) r',
        spec.resources[i]? = some r' → r'.backingName = r.backingName →
          report.outcomes[i]? = some (r'.name, .existed)) ∧
    (∀ n result, (s n).stand = .ended result → (∃ report, result = .ok report) ∨
      ∃ n' < n, GaveUp c (moments n') (s n).trial.attempts.length result) ∧
    ((∀ t, ∃ n, ∀ n' ≥ n, t ≤ (moments n').now) →
      (∃ n result, (s n).stand = .ended result) ∨ ∀ k, ∃ n, k ≤ (s n).trial.attempts.length) ∧
    (∀ n, ∃ first, (∀ k r, (s n).trial.Created faults k r → r ∈ spec.resources.take first) ∧
      ∀ r ∈ spec.resources.take first, (store n).spec? r.backingName ≠ none) ∧
    (∀ n name held, (store n).spec? name = some held ↔ (h.store url).spec? name = some held ∨
      ∃ k r, (s n).trial.Created faults k r ∧ r.backingName = name ∧ r.backingSpec = held) := by
  intro s store
  have hsound : ∀ n, ∃ done, Sound url faults spec c (h.store url)
      (fun m => ∃ k < n, moments k = m) (s n) done := Sound.course hsorted hfits
  refine ⟨fun n k asked hk => ?_, ⟨?_, ?_⟩, fun n report hover => ?_, fun n result hover => ?_,
    fun htime => ?_, fun n => ?_, fun n name held => ?_⟩
  · obtain ⟨done, hp⟩ := hsound n
    exact ⟨done k, hp.attempt hk⟩
  · rintro ⟨n, report, hover⟩
    obtain ⟨done, hp⟩ := hsound n
    obtain ⟨past, last, hattempts, hgoing, -⟩ := hp.of_over_ok hover
    exact ⟨past.length, ⟨n, by simp [hattempts]⟩,
      fun n' asked => unharmed_of_over_ok hover hattempts hgoing.unharmed⟩
  · rintro ⟨k, ⟨n, hk⟩, hclean⟩
    exact exists_over_ok hsorted hfits hk hclean
  · obtain ⟨done, hp⟩ := hsound n
    refine ⟨?_, ?_, fun k r hearlier hcreated i r' => hp.existed_of_created hover hearlier hcreated⟩
    · obtain ⟨past, last, hattempts, -, rfl⟩ := hp.of_over_ok hover
      rw [hp.count_connect, hattempts, List.length_append, List.length_singleton]
    · obtain ⟨past, last, -, hgoing, rfl⟩ := hp.of_over_ok hover
      rw [hgoing.resources_eq, Done.report, List.map_map, List.map_map]
      rfl
  · obtain ⟨done, hp⟩ := hsound n
    refine (hp.of_over hover).imp_right ?_
    rintro ⟨_, ⟨n', hlt, rfl⟩, hgaveUp⟩
    exact ⟨n', hlt, hgaveUp⟩
  · by_contra hnot
    obtain ⟨hnever, hbounded⟩ := not_or.1 hnot
    have hnever' : ∀ n result, (s n).stand ≠ .ended result := fun n result hover =>
      hnever ⟨n, result, hover⟩
    refine hbounded fun k => ?_
    induction k with
    | zero => exact ⟨0, Nat.zero_le _⟩
    | succ k ih =>
      obtain ⟨n, hn⟩ := ih
      obtain ⟨n', hn'⟩ := exists_more hnever' htime n
      exact ⟨n', hn.trans_lt hn'⟩
  · obtain ⟨done, hp⟩ := hsound n
    exact hp.exists_first
  · obtain ⟨done, hp⟩ := hsound n
    exact hp.spec?_iff

/-- A bucket and a stream. -/
def pair : TopologySpec :=
  ⟨[.bucket { name := "X" }, .stream { name := "Y", subjects := ["y"], maxAge := some ⟨5⟩ }]⟩

/-- The first attempt cannot create the stream, and the second is refused. -/
def faltering : Faults
  | 0, 4 => some "no space left"
  | 1, 0 => some "connection refused"
  | _, _ => none

/-- A turn every second. -/
def ticking (n : ℕ) : Moment :=
  ⟨1000 * n, n, 1.0, false⟩

/-- The third attempt finds the bucket and creates the stream. -/
theorem retried_whole_thirdAttempt :
    let s := course "local" faltering pair { maxAttempts := 4 } {} ticking
    (∃ n report, (s n).stand = .ended (.ok report)) ∧
      (s 16).stand = .ended (.ok ⟨3, [("X", .existed), ("Y", .created)]⟩) := by
  intro s
  have hsorted : (Host.store {} "local").streams.Sorted := List.Pairwise.nil
  have hfits : ∀ n, Fits (Host.store {} "local") (fun _ : ℕ => pair) (ticking n).wallClock := by
    intro n
    refine ⟨fun name held hheld => by contradiction, fun _ r hr age hage => ?_⟩
    simp only [pair, List.mem_cons, List.not_mem_nil, or_false] at hr
    rcases hr with rfl | rfl
    · contradiction
    · obtain rfl : (⟨5⟩ : Duration) = age := Option.some.inj hage
      have hearliest : Stream.earliest ≤ -5 := by decide
      have hlater : (-5 : ℤ) ≤ (n : ℤ) - 5 := by omega
      exact ⟨by decide, Int.le_trans hearliest hlater⟩
  have hall := retried_whole { maxAttempts := 4 } faltering hsorted hfits
  refine ⟨hall.2.1.2 ⟨2, ⟨16, by decide +kernel⟩, fun _ _ _ _ _ => rfl⟩, by decide +kernel⟩

end Retrying

end EdgeNode
