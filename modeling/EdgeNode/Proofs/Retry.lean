import EdgeNode.Progress
import EdgeNode.Topology.Provision
import Mathlib.Data.List.Range
import Mathlib.Order.Monotone.Basic
/-!
# The calls of a retried operation

A retried operation is followed turn by turn.  Its calls take any time and end in any way, and it
may be cancelled at any turn, be it before a call, during one or in a pause (`Retry.Events`).  A
step of the program that calls the operation is two turns, one in which the call begins and one in
which it ends; all other steps are one (`turns_of_step`).  A pass of provisioning is a call that
takes many steps (`turn_of_provisioning`).  So every course of steps is a run, with the calls that
were made on the way (`Stepped`, `Provisioned`), and what is said of runs is said of the program.

The calls are numbered from one, every call but the last failed, and the stage of the operation
knows how many there were (`Retry.Sound`).  The last call settles how the operation ends
(`Retry.Settles`), unless a cancellation or the length of a pause keeps it from another
(`Retry.GivenUp`).
-/

namespace EdgeNode

/-- The pause, without its jitter, that follows a number of failures and one more. -/
def RetryConfig.delayAt? (c : RetryConfig) : ℕ → Option Duration
  | 0 => some c.initial
  | k + 1 => (c.delayAt? k).bind c.nextDelay?

namespace Retry

variable {ε α : Type}

/-! ### Runs -/

/-- What happens at a turn. -/
structure Event (ε α : Type) where
  /-- The instant. -/
  now : ℕ
  /-- By how much a pause that begins is stretched. -/
  jitter : Float
  /-- How the call that is under way ends, if it ends. -/
  answer : Option (Outcome ε α)

/-- What happens turn by turn. -/
structure Events (ε α : Type) where
  /-- What happens at each turn. -/
  event : ℕ → Event ε α
  /-- The turn from which on the operation is cancelled, if it ever is. -/
  cancelledFrom : Option ℕ

/-- Whether the operation is cancelled at a turn. -/
def Events.isCancelled (x : Events ε α) (n : ℕ) : Bool :=
  x.cancelledFrom.any (· ≤ n)

/-- Where a retried operation stands. -/
inductive Stand (ε α : Type) where
  /-- No call is under way. -/
  | between (stage : Stage)
  /-- A call is under way after so many others; `delay` is the pause after its failure. -/
  | calling (attempts : ℕ) (delay : Duration)
  /-- It has ended. -/
  | ended (result : Outcome (RetryError ε) (ℕ × α))
deriving DecidableEq

/-- Where it stands after a step from a stand. -/
def Stand.after (name : String) (stand : Stand ε α) (turn : Turn ε α) : Stand ε α :=
  match turn.progress name with
  | .next stage => .between stage
  | .wait _ => stand
  | .done result => .ended result

/-- A retried operation and its calls. -/
structure Run (ε α : Type) where
  /-- The numbers that the operation was called with. -/
  called : List ℕ
  /-- How the calls ended that have ended. -/
  outcomes : List (Outcome ε α)
  /-- Where it stands. -/
  stand : Stand ε α

/-- A turn. -/
def Run.turn (name : String) (c : RetryConfig) (s : Run ε α) (x : Event ε α) (isCancelled : Bool) :
    Run ε α :=
  match s.stand with
  | .between (.ready attempts delay) =>
    if isCancelled then { s with stand := s.stand.after name (.cancelled attempts) }
    else { s with called := s.called ++ [attempts + 1], stand := .calling attempts delay }
  | .calling attempts delay =>
    match x.answer with
    | none => s
    | some outcome =>
      { s with
        outcomes := s.outcomes ++ [outcome]
        stand := s.stand.after name
          (afterAttempt c x.jitter x.now (attempts + 1) delay outcome) }
  | .between (.pausing attempts delay wake) =>
    { s with
      stand := s.stand.after name (afterPause c x.now isCancelled attempts delay wake) }
  | .ended _ => s

/-- What it has come to after so many turns. -/
def run (name : String) (c : RetryConfig) (x : Events ε α) : ℕ → Run ε α
  | 0 => { called := [], outcomes := [], stand := .between (.start c) }
  | n + 1 => (run name c x n).turn name c (x.event n) (x.isCancelled n)

/-! ### What holds of the calls -/

/-- The calls failed. -/
def AllFailed (outcomes : List (Outcome ε α)) : Prop :=
  ∀ o ∈ outcomes, ∃ e, o = .error e

/-- Another call is permitted after so many. -/
def HasRoom (c : RetryConfig) (attempts : ℕ) : Prop :=
  0 < c.maxAttempts → attempts < c.maxAttempts

/-- The last call settles the operation. -/
inductive Settles (name : String) (c : RetryConfig) :
    List (Outcome ε α) → Outcome (RetryError ε) (ℕ × α) → Prop
  /-- It succeeded. -/
  | success {failed : List (Outcome ε α)} {a : α} (hfailed : AllFailed failed)
      (hroom : HasRoom c failed.length) :
      Settles name c (failed ++ [.ok a]) (.ok (failed.length + 1, a))
  /-- It failed and was the last that is permitted. -/
  | exhausted {failed : List (Outcome ε α)} {e : ε} (hfailed : AllFailed failed)
      (hlimit : failed.length + 1 = c.maxAttempts) :
      Settles name c (failed ++ [.error e]) (.error (.exhausted name (failed.length + 1) e))
  /-- It crashed. -/
  | crashed {failed : List (Outcome ε α)} (hfailed : AllFailed failed)
      (hroom : HasRoom c failed.length) : Settles name c (failed ++ [.crash]) .crash

/-- A pause has no length before a turn, after so many calls that failed. -/
inductive Pauseless (c : RetryConfig) (x : Events ε α) (n : ℕ) : ℕ → Prop
  /-- The pause that begins has none. -/
  | pause {k i : ℕ} {delay : Duration} (hdelay : c.delayAt? k = some delay) (hi : i < n)
      (hpause : Duration.ofFloat? (delay.toFloat * (x.event i).jitter) = none) :
      Pauseless c x n (k + 1)
  /-- The pause after another failure has none. -/
  | delay {k : ℕ} (hdelay : c.delayAt? k = none) : Pauseless c x n k

/-- The operation is given up before a turn, after so many calls that failed. -/
inductive GivenUp (name : String) (c : RetryConfig) (x : Events ε α) (n k : ℕ) :
    Outcome (RetryError ε) (ℕ × α) → Prop
  /-- It was cancelled. -/
  | cancelled (hcancelled : ∃ i < n, x.isCancelled i = true) :
      GivenUp name c x n k (.error (.cancelled name k))
  /-- A pause has no length. -/
  | crashed (hpause : Pauseless c x n k) : GivenUp name c x n k .crash

/-- What holds of an operation before a turn, with the number of its calls and the outcomes of those
that have ended. -/
inductive Holds (name : String) (c : RetryConfig) (x : Events ε α) (n : ℕ) :
    ℕ → List (Outcome ε α) → Stand ε α → Prop
  /-- About to be called. -/
  | ready {failed : List (Outcome ε α)} {delay : Duration} (hfailed : AllFailed failed)
      (hroom : HasRoom c failed.length) (hdelay : c.delayAt? failed.length = some delay) :
      Holds name c x n failed.length failed (.between (.ready failed.length delay))
  /-- In a call. -/
  | calling {failed : List (Outcome ε α)} {delay : Duration} (hfailed : AllFailed failed)
      (hroom : HasRoom c failed.length) (hdelay : c.delayAt? failed.length = some delay) :
      Holds name c x n (failed.length + 1) failed (.calling failed.length delay)
  /-- Pausing after one. -/
  | pausing {failed : List (Outcome ε α)} {k wake : ℕ} {delay : Duration}
      (hfailed : AllFailed failed) (hroom : HasRoom c failed.length)
      (hlength : failed.length = k + 1) (hdelay : c.delayAt? k = some delay) :
      Holds name c x n failed.length failed (.between (.pausing failed.length delay wake))
  /-- Given up after one. -/
  | givenUp {failed : List (Outcome ε α)} {result : Outcome (RetryError ε) (ℕ × α)}
      (hfailed : AllFailed failed) (hroom : HasRoom c failed.length)
      (hgivenUp : GivenUp name c x n failed.length result) :
      Holds name c x n failed.length failed (.ended result)
  /-- Settled by the last. -/
  | settled {outcomes : List (Outcome ε α)} {result : Outcome (RetryError ε) (ℕ × α)}
      (hsettles : Settles name c outcomes result) :
      Holds name c x n outcomes.length outcomes (.ended result)

/-- What holds of a run before a turn: the calls are numbered from one. -/
structure Sound (name : String) (c : RetryConfig) (x : Events ε α) (n : ℕ) (s : Run ε α) :
    Prop where
  numbered : s.called = List.range' 1 s.called.length
  holds : Holds name c x n s.called.length s.outcomes s.stand

variable {name : String} {c : RetryConfig} {x : Events ε α} {n k : ℕ} {s : Run ε α}
  {outcomes failed : List (Outcome ε α)} {outcome : Outcome ε α} {delay : Duration} {e : ε}
  {result : Outcome (RetryError ε) (ℕ × α)}

lemma allFailed_nil : AllFailed ([] : List (Outcome ε α)) := fun _ h => by contradiction

lemma AllFailed.concat (h : AllFailed failed) (e : ε) : AllFailed (failed ++ [.error e]) := by
  intro o ho
  rcases List.mem_append.1 ho with ho | ho
  · exact h o ho
  · exact ⟨e, List.mem_singleton.1 ho⟩

lemma GivenUp.mono {n' : ℕ} (h : GivenUp name c x n k result) (hle : n ≤ n') :
    GivenUp name c x n' k result := by
  cases h with
  | cancelled hcancelled =>
    obtain ⟨i, hi, hcancelled⟩ := hcancelled
    exact .cancelled ⟨i, hi.trans_le hle, hcancelled⟩
  | crashed hpause =>
    cases hpause with
    | pause hdelay hi hpause => exact .crashed (.pause hdelay (hi.trans_le hle) hpause)
    | delay hdelay => exact .crashed (.delay hdelay)

/-- A call that ended settles the operation, or a pause follows. -/
lemma holds_afterAttempt {stand : Stand ε α} (hfailed : AllFailed failed)
    (hroom : HasRoom c failed.length) (hdelay : c.delayAt? failed.length = some delay) :
    Holds name c x (n + 1) (failed ++ [outcome]).length (failed ++ [outcome])
      (stand.after name (afterAttempt c (x.event n).jitter (x.event n).now (failed.length + 1) delay
        outcome)) := by
  cases outcome with
  | ok a => exact .settled (.success hfailed hroom)
  | crash => exact .settled (.crashed hfailed hroom)
  | error e =>
    simp only [afterAttempt]
    split
    · next hlast =>
      exact .settled (.exhausted hfailed ((Nat.succ_le_of_lt (hroom hlast.1)).antisymm hlast.2))
    · next hmore =>
      have hfailed' : AllFailed (failed ++ [.error e]) := hfailed.concat e
      have hlength : (failed ++ [.error e] : List (Outcome ε α)).length = failed.length + 1 :=
        List.length_append
      generalize failed ++ [.error e] = failed' at hfailed' hlength ⊢
      have hroom' : HasRoom c failed'.length := fun hpos => by
        rw [hlength]
        by_contra hle
        exact hmore ⟨hpos, Nat.not_lt.1 hle⟩
      cases hpause : Duration.ofFloat? (delay.toFloat * (x.event n).jitter) with
      | none =>
        have hpauseless : Pauseless c x (n + 1) failed'.length := by
          rw [hlength]
          exact .pause hdelay n.lt_succ_self hpause
        exact .givenUp hfailed' hroom' (.crashed hpauseless)
      | some pause =>
        rw [← hlength]
        exact .pausing hfailed' hroom' hlength hdelay

/-- A pause goes on, or it is over; when it is cancelled, so is the operation. -/
lemma holds_afterPause {wake : ℕ} (hfailed : AllFailed failed)
    (hroom : HasRoom c failed.length) (hlength : failed.length = k + 1)
    (hdelay : c.delayAt? k = some delay) :
    Holds name c x (n + 1) failed.length failed
      (Stand.after name (.between (.pausing failed.length delay wake))
        (afterPause c (x.event n).now (x.isCancelled n) failed.length delay wake)) := by
  have hnext : c.delayAt? failed.length = c.nextDelay? delay := by
    rw [hlength, RetryConfig.delayAt?, hdelay, Option.bind_some]
  unfold afterPause
  split
  · next hcancelled =>
    exact .givenUp hfailed hroom (.cancelled ⟨n, n.lt_succ_self, hcancelled⟩)
  · split
    · exact .pausing hfailed hroom hlength hdelay
    · cases hdelay' : c.nextDelay? delay with
      | none => exact .givenUp hfailed hroom (.crashed (.delay (hnext.trans hdelay')))
      | some delay' => exact .ready hfailed hroom (hnext.trans hdelay')

namespace Sound

lemma start : Sound name c x 0 (run name c x 0) where
  numbered := rfl
  holds := .ready allFailed_nil (fun hpos => hpos) rfl

/-- **Every turn keeps it.** -/
theorem turn (h : Sound name c x n s) :
    Sound name c x (n + 1) (s.turn name c (x.event n) (x.isCancelled n)) := by
  obtain ⟨called, outcomes, stand⟩ := s
  obtain ⟨hnumbered, hholds⟩ := h
  simp only at hnumbered hholds
  -- the stand knows how many calls there were, not which
  generalize hcalls : called.length = calls at hnumbered hholds
  cases hholds with
  | ready hfailed hroom hdelay =>
    simp only [Run.turn]
    split
    · next hcancelled =>
      refine ⟨hcalls ▸ hnumbered, ?_⟩
      simp only [hcalls]
      exact .givenUp hfailed hroom (.cancelled ⟨n, n.lt_succ_self, hcancelled⟩)
    · have hlength : (called ++ [outcomes.length + 1]).length = outcomes.length + 1 := by
        rw [List.length_append, hcalls, List.length_singleton]
      refine ⟨?_, ?_⟩
      · simp only [hlength]
        rw [List.range'_concat, ← hnumbered, Nat.one_mul, Nat.add_comm 1]
      · simp only [hlength]
        exact .calling hfailed hroom hdelay
  | calling hfailed hroom hdelay =>
    simp only [Run.turn]
    cases hanswer : (x.event n).answer with
    | none =>
      refine ⟨hcalls ▸ hnumbered, ?_⟩
      simp only [hcalls]
      exact .calling hfailed hroom hdelay
    | some outcome =>
      refine ⟨hcalls ▸ hnumbered, ?_⟩
      have hlength : called.length = (outcomes ++ [outcome]).length := by
        rw [hcalls, List.length_append, List.length_singleton]
      simp only [hlength]
      exact holds_afterAttempt hfailed hroom hdelay
  | pausing hfailed hroom hlength hdelay =>
    refine ⟨hcalls ▸ hnumbered, ?_⟩
    simp only [Run.turn, hcalls]
    exact holds_afterPause hfailed hroom hlength hdelay
  | givenUp hfailed hroom hgivenUp =>
    refine ⟨hcalls ▸ hnumbered, ?_⟩
    simp only [Run.turn, hcalls]
    exact .givenUp hfailed hroom (hgivenUp.mono n.le_succ)
  | settled hsettles =>
    refine ⟨hcalls ▸ hnumbered, ?_⟩
    simp only [Run.turn, hcalls]
    exact .settled hsettles

/-- And so it holds after any number of turns. -/
theorem run (name : String) (c : RetryConfig) (x : Events ε α) (n : ℕ) :
    Sound name c x n (run name c x n) := by
  induction n with
  | zero => exact start
  | succ n ih => exact ih.turn

/-! ### What the calls come to -/

/-- All calls that have ended failed and another was permitted, or the last one settled it. -/
lemma failed_or_settles (h : Sound name c x n s) :
    (AllFailed s.outcomes ∧ HasRoom c s.outcomes.length ∧
        s.called.length ≤ s.outcomes.length + 1 ∧ ∀ result, s.stand = .ended result →
          s.outcomes.length = s.called.length ∧ GivenUp name c x n s.called.length result) ∨
      ∃ result, s.stand = .ended result ∧ Settles name c s.outcomes result ∧
        s.outcomes.length = s.called.length := by
  obtain ⟨called, outcomes, stand⟩ := s
  have hholds := h.holds
  simp only at hholds ⊢
  generalize called.length = calls at hholds
  cases hholds with
  | ready hfailed hroom _ => exact .inl ⟨hfailed, hroom, Nat.le_succ _, fun _ h => by contradiction⟩
  | calling hfailed hroom _ => exact .inl ⟨hfailed, hroom, le_rfl, fun _ h => by contradiction⟩
  | pausing hfailed hroom _ _ =>
    exact .inl ⟨hfailed, hroom, Nat.le_succ _, fun _ h => by contradiction⟩
  | givenUp hfailed hroom hgivenUp =>
    refine .inl ⟨hfailed, hroom, Nat.le_succ _, fun result h => ⟨rfl, ?_⟩⟩
    exact Stand.ended.inj h ▸ hgivenUp
  | settled hsettles => exact .inr ⟨_, rfl, hsettles, rfl⟩

end Sound

lemma Settles.exists_concat (h : Settles name c outcomes result) :
    ∃ failed outcome, outcomes = failed ++ [outcome] ∧ AllFailed failed ∧
      (0 < c.maxAttempts → failed.length < c.maxAttempts) := by
  cases h with
  | success hfailed hroom => exact ⟨_, _, rfl, hfailed, hroom⟩
  | exhausted hfailed hlimit => exact ⟨_, _, rfl, hfailed, fun _ => hlimit ▸ Nat.lt_succ_self _⟩
  | crashed hfailed hroom => exact ⟨_, _, rfl, hfailed, hroom⟩

namespace Sound

/-- Every call but the last failed. -/
lemma exists_error {i : ℕ} (h : Sound name c x n s) (hi : i + 1 < s.called.length) :
    ∃ e, s.outcomes[i]? = some (.error e) := by
  -- those before the last outcome, or all of them, failed
  obtain ⟨failed, last, hlast, hfailed, hlength⟩ : ∃ failed last, s.outcomes = failed ++ last ∧
      AllFailed failed ∧ s.called.length ≤ failed.length + 1 := by
    rcases h.failed_or_settles with ⟨hfailed, -, hle, -⟩ | ⟨result, -, hsettles, hcalls⟩
    · exact ⟨_, [], (List.append_nil _).symm, hfailed, hle⟩
    · obtain ⟨failed, outcome, heq, hfailed, -⟩ := hsettles.exists_concat
      refine ⟨failed, [outcome], heq, hfailed, ?_⟩
      rw [← hcalls, heq, List.length_append, List.length_singleton]
  have hi' : i < failed.length := by omega
  obtain ⟨e, he⟩ := hfailed _ (List.getElem_mem hi')
  exact ⟨e, by rw [hlast, List.getElem?_append_left hi', List.getElem?_eq_getElem hi', he]⟩

/-- It succeeds with the call that does. -/
lemma ended_ok_iff {a : α} (h : Sound name c x n s) :
    s.stand = .ended (.ok (k, a)) ↔ k = s.called.length ∧ s.outcomes.getLast? = some (.ok a) := by
  rcases h.failed_or_settles with ⟨hfailed, -, -, hgivenUp⟩ | ⟨result, hended, hsettles, hcalls⟩
  · constructor
    · intro hended
      cases (hgivenUp _ hended).2
    · rintro ⟨-, hlast⟩
      obtain ⟨e, he⟩ := hfailed _ (List.mem_of_getLast? hlast)
      contradiction
  · rw [hended, ← hcalls]
    generalize s.outcomes = outcomes at hsettles
    cases hsettles with
    | success _ _ => simp [eq_comm]
    | exhausted _ _ => simp
    | crashed _ _ => simp

/-- It is exhausted with the failure of the last call that is permitted. -/
lemma ended_exhausted_iff (h : Sound name c x n s) :
    s.stand = .ended (.error (.exhausted name k e)) ↔
      0 < c.maxAttempts ∧ k = c.maxAttempts ∧ s.outcomes.length = k ∧
        s.outcomes.getLast? = some (.error e) := by
  rcases h.failed_or_settles with ⟨-, hroom, -, hgivenUp⟩ | ⟨result, hended, hsettles, -⟩
  · constructor
    · intro hended
      cases (hgivenUp _ hended).2
    · rintro ⟨hpos, rfl, hlength, -⟩
      exact absurd hlength (hroom hpos).ne
  · rw [hended]
    generalize s.outcomes = outcomes at hsettles
    cases hsettles with
    | success _ _ => simp
    | crashed _ _ => simp
    | @exhausted failed e' _ hlimit =>
      have hpos : 0 < c.maxAttempts := hlimit ▸ Nat.succ_pos _
      simp only [Stand.ended.injEq, Outcome.error.injEq, RetryError.exhausted.injEq, true_and,
        List.length_append, List.length_singleton, List.getLast?_concat, Option.some.injEq, hpos]
      constructor
      · rintro ⟨rfl, rfl⟩
        exact ⟨hlimit, rfl, rfl⟩
      · rintro ⟨rfl, -, rfl⟩
        exact ⟨hlimit, rfl⟩

/-- When it has ended, so have all its calls.  Where it neither succeeded nor was exhausted, it was
cancelled, or it crashed with its last call or for want of a pause. -/
lemma of_ended (h : Sound name c x n s) (hended : s.stand = .ended result) :
    s.outcomes.length = s.called.length ∧
      ((∃ k a, result = .ok (k, a)) ∨ (∃ k e, result = .error (.exhausted name k e)) ∨
        (result = .error (.cancelled name s.called.length) ∧ ∃ i < n, x.isCancelled i = true) ∨
        (result = .crash ∧
          (s.outcomes.getLast? = some .crash ∨ Pauseless c x n s.called.length))) := by
  rcases h.failed_or_settles with ⟨-, -, -, hgivenUp⟩ | ⟨result', hended', hsettles, hcalls⟩
  · obtain ⟨hcalls, hgivenUp⟩ := hgivenUp _ hended
    refine ⟨hcalls, ?_⟩
    cases hgivenUp with
    | cancelled hcancelled => exact .inr (.inr (.inl ⟨rfl, hcancelled⟩))
    | crashed hpause => exact .inr (.inr (.inr ⟨rfl, .inr hpause⟩))
  · obtain rfl := Stand.ended.inj (hended.symm.trans hended')
    refine ⟨hcalls, ?_⟩
    generalize s.outcomes = outcomes at hsettles
    cases hsettles with
    | success _ _ => exact .inl ⟨_, _, rfl⟩
    | exhausted _ _ => exact .inr (.inl ⟨_, _, rfl⟩)
    | crashed _ _ => exact .inr (.inr (.inr ⟨rfl, .inl (by simp)⟩))

/-- There are never more calls than are permitted. -/
lemma length_le (h : Sound name c x n s) (hpos : 0 < c.maxAttempts) :
    s.called.length ≤ c.maxAttempts := by
  rcases h.failed_or_settles with ⟨-, hroom, hle, -⟩ | ⟨result, -, hsettles, hcalls⟩
  · exact hle.trans (hroom hpos)
  · obtain ⟨failed, outcome, heq, -, hroom⟩ := hsettles.exists_concat
    rw [← hcalls, heq, List.length_append, List.length_singleton]
    exact hroom hpos

end Sound

/-! ### From turn to turn -/

section Turns

variable {y : Event ε α} {isCancelled : Bool} {attempts wake : ℕ}

/-- A call that does not end goes on, also when the operation is cancelled. -/
lemma turn_of_calling (h : s.stand = .calling attempts delay) (hanswer : y.answer = none) :
    s.turn name c y isCancelled = s := by
  simp only [Run.turn, h, hanswer]

/-- When it ends, its outcome counts, also when the operation is cancelled. -/
lemma turn_of_answer (h : s.stand = .calling attempts delay) (hanswer : y.answer = some outcome) :
    (s.turn name c y isCancelled).outcomes = s.outcomes ++ [outcome] ∧
      ((∃ stage, (s.turn name c y isCancelled).stand = .between stage) ∨
        ∃ result, (s.turn name c y isCancelled).stand = .ended result) := by
  simp only [Run.turn, h, hanswer, true_and]
  cases outcome with
  | ok a => exact .inr ⟨_, rfl⟩
  | crash => exact .inr ⟨_, rfl⟩
  | error e =>
    simp only [afterAttempt]
    split
    · exact .inr ⟨_, rfl⟩
    · split
      · exact .inr ⟨_, rfl⟩
      · exact .inl ⟨_, rfl⟩

/-- A call begins only where the operation is not cancelled. -/
lemma turn_of_ready (h : s.stand = .between (.ready attempts delay)) :
    if isCancelled then ∃ result, (s.turn name c y isCancelled).stand = .ended result
    else (s.turn name c y isCancelled).called = s.called ++ [attempts + 1] := by
  cases isCancelled <;> simp only [Run.turn, h]
  · rfl
  · exact ⟨_, rfl⟩

/-- A pause ends when its time has come or the operation is cancelled. -/
lemma turn_of_pausing (h : s.stand = .between (.pausing attempts delay wake)) :
    (∃ result, (s.turn name c y isCancelled).stand = .ended result) ∨
      isCancelled = false ∧
        ((∃ delay', (s.turn name c y isCancelled).stand = .between (.ready attempts delay')) ∨
          y.now < wake ∧ s.turn name c y isCancelled = s) := by
  obtain ⟨called, outcomes, stand⟩ := s
  obtain rfl : stand = .between (.pausing attempts delay wake) := h
  simp only [Run.turn, afterPause]
  split
  · exact .inl ⟨_, rfl⟩
  · next hnot =>
    split
    · next hearly => exact .inr ⟨by simpa using hnot, .inr ⟨hearly, rfl⟩⟩
    · cases c.nextDelay? delay with
      | none => exact .inl ⟨_, rfl⟩
      | some delay' => exact .inr ⟨by simpa using hnot, .inl ⟨delay', rfl⟩⟩

/-- Cancelled where no call is under way, it ends at once. -/
lemma ended_turn_of_cancelled {stage : Stage} (h : s.stand = .between stage) :
    ∃ result, (s.turn name c y true).stand = .ended result := by
  cases stage with
  | ready attempts delay =>
    simp only [Run.turn, h, if_true]
    exact ⟨_, rfl⟩
  | pausing attempts delay wake =>
    exact (turn_of_pausing h).resolve_right fun hgoes => Bool.noConfusion hgoes.1

/-- Calls begin one at a time, and only between others. -/
lemma called_turn (name : String) (c : RetryConfig) (s : Run ε α) (y : Event ε α)
    (isCancelled : Bool) :
    (s.turn name c y isCancelled).called = s.called ∨ isCancelled = false ∧
      ∃ attempts, (s.turn name c y isCancelled).called = s.called ++ [attempts] := by
  unfold Run.turn
  split
  · cases isCancelled
    · exact .inr ⟨rfl, _, rfl⟩
    · exact .inl rfl
  · split <;> exact .inl rfl
  · exact .inl rfl
  · exact .inl rfl

end Turns

/-! ### Steps -/

section Steps

variable {stage : Stage}

/-- A call is not waited for. -/
lemma afterAttempt_ne_wait {jitter : Float} {now attempt wake : ℕ} :
    afterAttempt c jitter now attempt delay outcome ≠ .wait wake := by
  intro h
  unfold afterAttempt at h
  split at h
  · contradiction
  · contradiction
  · split at h
    · contradiction
    · split at h <;> contradiction

/-- A call that has ended leaves nothing of where it stood. -/
lemma after_afterAttempt (stand stand' : Stand ε α) (jitter : Float) (now attempt : ℕ)
    (delay : Duration) (outcome : Outcome ε α) :
    stand.after name (afterAttempt c jitter now attempt delay outcome)
      = stand'.after name (afterAttempt c jitter now attempt delay outcome) := by
  cases hturn : afterAttempt c jitter now attempt delay outcome with
  | wait wake => exact absurd hturn afterAttempt_ne_wait
  | _ => rfl

/-- **A step that calls the operation is the turn in which the call begins and the one in which it
ends; any other step is a turn.** -/
theorem turns_of_step {σ : Type} (name : String) (c : RetryConfig) (y : Event ε α)
    (isCancelled : Bool) (operation : ℕ → σ → Outcome ε α × σ) (world : σ)
    (hstand : s.stand = .between stage) :
    let after := step c y.jitter y.now isCancelled operation world stage
    (after.2 = world ∧
        s.turn name c y isCancelled = { s with stand := s.stand.after name after.1 }) ∨
      isCancelled = false ∧
        ∃ attempts, (operation (attempts + 1) world).2 = after.2 ∧ ∀ y' isCancelled',
          let outcome := (operation (attempts + 1) world).1
          (s.turn name c y' false).turn name c { y with answer := some outcome } isCancelled'
            = { called := s.called ++ [attempts + 1]
                outcomes := s.outcomes ++ [outcome]
                stand := s.stand.after name after.1 } := by
  obtain ⟨called, outcomes, stand⟩ := s
  obtain rfl : stand = .between stage := hstand
  cases stage with
  | pausing attempts delay wake => exact .inl ⟨rfl, rfl⟩
  | ready attempts delay =>
    cases isCancelled with
    | true => exact .inl ⟨rfl, rfl⟩
    | false =>
      -- whatever comes while the call is under way makes no difference
      refine .inr ⟨rfl, attempts, rfl, fun y' isCancelled' => ?_⟩
      simp only [Run.turn, step, Bool.false_eq_true, if_false, Run.mk.injEq, true_and]
      exact after_afterAttempt _ _ _ _ _ _ _

end Steps

/-! ### Courses of steps -/

section Courses

variable {calls : List (ℕ × Outcome ε α)} {stand : Stand ε α} {σ : Type}
  {operation : ℕ → σ → Outcome ε α × σ}

/-- The operation, with a note of each call and how it ended. -/
def noting (operation : ℕ → σ → Outcome ε α × σ) (attempt : ℕ)
    (world : σ × List (ℕ × Outcome ε α)) : Outcome ε α × σ × List (ℕ × Outcome ε α) :=
  ((operation attempt world.1).1, (operation attempt world.1).2,
    world.2 ++ [(attempt, (operation attempt world.1).1)])

/-- The note makes no difference. -/
lemma step_noting (c : RetryConfig) (jitter : Float) (now : ℕ) (isCancelled : Bool) (world : σ)
    (calls : List (ℕ × Outcome ε α)) (stage : Stage) :
    (step c jitter now isCancelled (noting operation) (world, calls) stage).1
      = (step c jitter now isCancelled operation world stage).1 := by
  cases stage with
  | ready attempts delay => cases isCancelled <;> rfl
  | pausing attempts delay wake => rfl

/-- A course of steps of a retried operation comes to this, with the calls that were noted.
Anything may happen to the world between two steps. -/
inductive Stepped (name : String) (c : RetryConfig) (operation : ℕ → σ → Outcome ε α × σ) :
    List (ℕ × Outcome ε α) → Stand ε α → Prop
  /-- It begins. -/
  | start : Stepped name c operation [] (.between (.start c))
  /-- A step. -/
  | step {calls calls' : List (ℕ × Outcome ε α)} {stage : Stage} {stand : Stand ε α}
      (before : Stepped name c operation calls (.between stage)) (jitter : Float) (now : ℕ)
      (isCancelled : Bool) (world : σ)
      (hstand : Stand.after name (.between stage)
        (step c jitter now isCancelled operation world stage).1 = stand)
      (hcalls : (step c jitter now isCancelled (noting operation) (world, calls) stage).2.2
        = calls') :
      Stepped name c operation calls' stand

/-- The events with another one at a turn, and a cancellation from then on or never. -/
def Events.withTurn (x : Events ε α) (n : ℕ) (y : Event ε α) (isCancelled : Bool) : Events ε α where
  event := Function.update x.event n y
  cancelledFrom := if isCancelled then some n else none

/-- A run depends on what happened before. -/
lemma run_congr {x' : Events ε α}
    (h : ∀ m < n, x'.event m = x.event m ∧ x'.isCancelled m = x.isCancelled m) :
    run name c x' n = run name c x n := by
  induction n with
  | zero => rfl
  | succ n ih =>
    have hbefore : run name c x' n = run name c x n :=
      ih fun m hm => h m (hm.trans n.lt_succ_self)
    obtain ⟨hevent, hcancelled⟩ := h n n.lt_succ_self
    simp only [run, hbefore, hevent, hcancelled]

/-- A run that is not cancelled can go on with any turn. -/
lemma run_withTurn (hnone : x.cancelledFrom = none) (y : Event ε α) (isCancelled : Bool) :
    run name c (x.withTurn n y isCancelled) (n + 1)
      = (run name c x n).turn name c y isCancelled := by
  have hbefore : run name c (x.withTurn n y isCancelled) n = run name c x n := by
    refine run_congr fun m hm => ⟨Function.update_of_ne hm.ne _ _, ?_⟩
    cases isCancelled
    · simp [Events.isCancelled, Events.withTurn, hnone]
    · simpa [Events.isCancelled, Events.withTurn, hnone] using hm
  have hevent : (x.withTurn n y isCancelled).event n = y := Function.update_self ..
  have hcancelled : (x.withTurn n y isCancelled).isCancelled n = isCancelled := by
    cases isCancelled <;> simp [Events.isCancelled, Events.withTurn]
  rw [run, hbefore, hevent, hcancelled]

/-- Some run comes to this, and anything may come next unless it has ended. -/
def Reached (name : String) (c : RetryConfig) (s : Run ε α) : Prop :=
  ∃ x n, run name c x n = s ∧ ((∀ result, s.stand ≠ .ended result) → x.cancelledFrom = none)

namespace Reached

lemma start : Reached name c
    ({ called := [], outcomes := [], stand := .between (.start c) } : Run ε α) :=
  ⟨{ event := fun _ => { now := 0, jitter := 1.0, answer := none }, cancelledFrom := none }, 0,
    rfl, fun _ => rfl⟩

lemma exists_run (h : Reached name c s) : ∃ x n, run name c x n = s := by
  obtain ⟨x, n, hrun, -⟩ := h
  exact ⟨x, n, hrun⟩

/-- Whatever a turn brings, some run brings it. -/
lemma turn (h : Reached name c s) (y : Event ε α) (isCancelled : Bool) :
    Reached name c (s.turn name c y isCancelled) := by
  obtain ⟨x, n, rfl, hopen⟩ := h
  cases hstand : (run name c x n).stand with
  | ended result =>
    have hsame : (run name c x n).turn name c y isCancelled = run name c x n := by
      simp only [Run.turn, hstand]
    rw [hsame]
    exact ⟨x, n, rfl, hopen⟩
  | calling attempts delay =>
    -- a cancellation that comes meanwhile can as well come later
    have hsame : (run name c x n).turn name c y isCancelled
        = (run name c x n).turn name c y false := by
      simp only [Run.turn, hstand]
    have hnone : x.cancelledFrom = none := hopen (by simp [hstand])
    rw [hsame]
    exact ⟨x.withTurn n y false, n + 1, run_withTurn hnone y false, fun _ => rfl⟩
  | between stage =>
    have hnone : x.cancelledFrom = none := hopen (by simp [hstand])
    refine ⟨x.withTurn n y isCancelled, n + 1, run_withTurn hnone y isCancelled, fun hgoes => ?_⟩
    cases isCancelled with
    | false => rfl
    | true =>
      obtain ⟨result, hended⟩ :
          ∃ result, ((run name c x n).turn name c y true).stand = .ended result :=
        ended_turn_of_cancelled hstand
      exact absurd hended (hgoes result)

end Reached

/-- **A course of steps is a run**, with the calls that were noted. -/
theorem reached_of_stepped (h : Stepped name c operation calls stand) :
    Reached name c
      { called := calls.map Prod.fst, outcomes := calls.map Prod.snd, stand } := by
  induction h with
  | start => exact .start
  | @step calls calls' stage stand before jitter now isCancelled world hstand hcalls ih =>
    let s : Run ε α :=
      { called := calls.map Prod.fst, outcomes := calls.map Prod.snd, stand := .between stage }
    have hturns := turns_of_step (s := s) name c { now, jitter, answer := none } isCancelled
      (noting operation) (world, calls) rfl
    rw [← step_noting c jitter now isCancelled world calls stage] at hstand
    rcases hstep : step c jitter now isCancelled (noting operation) (world, calls) stage with
      ⟨turn, world', calls''⟩
    simp only [hstep] at hturns hstand hcalls
    obtain rfl := hstand
    obtain rfl := hcalls
    rcases hturns with ⟨hworld, hturn⟩ | ⟨rfl, attempts, hworld, hturns⟩
    · -- nothing was called, and nothing was noted
      obtain rfl : calls'' = calls := congrArg Prod.snd hworld
      have hreached := ih.turn { now, jitter, answer := none } isCancelled
      rwa [hturn] at hreached
    · -- the call takes two turns, and was noted
      obtain rfl : calls ++ [_] = calls'' := congrArg Prod.snd hworld
      have hbegun := ih.turn { now, jitter, answer := none } false
      have hreached := hbegun.turn
        { now, jitter, answer := some (noting operation (attempts + 1) (world, calls)).1 } false
      rw [hturns] at hreached
      rwa [List.map_append, List.map_append]

end Courses

/-! ### Provisioning -/

section Provisioning

variable {isCancelled : Bool} {σ : Type} {link : StoreLink σ} {spec : TopologySpec}
  {p : Provisioning} {passes : List (Outcome Error EnsuredList)}
  {progress : Progress Provisioning (Outcome (RetryError Error) ProvisionReport)}

/-- Provisioning stands like a retried operation whose calls are its passes. -/
inductive StandsLike : Provisioning → Stand Error EnsuredList → Prop
  /-- Between passes. -/
  | between (stage : Stage) : StandsLike (.between stage) (.between stage)
  /-- In a pass. -/
  | during (attempts : ℕ) (delay : Duration) (pass : Pass) :
      StandsLike (.during (attempts + 1) delay pass) (.calling attempts delay)

/-- Where it stands after the progress that it made. -/
def LedTo (s s' : Run Error EnsuredList) :
    Progress Provisioning (Outcome (RetryError Error) ProvisionReport) → Prop
  | .next p => StandsLike p s'.stand
  | .wait _ => s' = s
  | .done report => ∃ result, s'.stand = .ended result ∧
      report = result.map fun (attempts, outcomes) => { attempts, outcomes }

lemma ledTo_settle {s s' : Run Error EnsuredList} {turn : Turn Error EnsuredList}
    (hstand : s'.stand = s.stand.after setupConnection turn)
    (hwait : ∀ wake, turn = .wait wake → s' = s) : LedTo s s' (Provisioning.settle turn) := by
  cases turn with
  | next stage =>
    have hbetween : s'.stand = .between stage := hstand
    simp only [Provisioning.settle, Turn.progress, Progress.inside, Progress.map, LedTo, hbetween]
    exact .between stage
  | wait wake => exact hwait wake rfl
  | success attempts a => exact ⟨_, hstand, rfl⟩
  | cancelled attempts => exact ⟨_, hstand, rfl⟩
  | exhausted attempts e => exact ⟨_, hstand, rfl⟩
  | crash => exact ⟨_, hstand, rfl⟩

/-- How a pass ends with a step, if it does. -/
def passEnd? (link : StoreLink σ) (spec : TopologySpec) (world : σ) :
    Provisioning → Option (Outcome Error EnsuredList)
  | .between _ => none
  | .during _ _ pass =>
    match (pass.step link spec world).1 with
    | .done result => some result
    | _ => none

/-- **A step of provisioning is a turn of such an operation**, and a pass that ends is a call that
does. -/
theorem turn_of_provisioning {s : Run Error EnsuredList} (link : StoreLink σ) (spec : TopologySpec)
    (jitter : Float) (now : ℕ) (world : σ) (hlike : StandsLike p s.stand) :
    let s' := s.turn setupConnection c ⟨now, jitter, passEnd? link spec world p⟩ isCancelled
    s'.outcomes = s.outcomes ++ (passEnd? link spec world p).toList ∧
      LedTo s s' (p.step link spec c jitter now isCancelled world).1 := by
  obtain ⟨called, outcomes, stand⟩ := s
  cases hlike with
  | between stage =>
    simp only [passEnd?, Option.toList_none, List.append_nil]
    cases stage with
    | ready attempts delay =>
      cases isCancelled with
      | true => exact ⟨rfl, _, rfl, rfl⟩
      | false => exact ⟨rfl, .during attempts delay .connecting⟩
    | pausing attempts delay wake =>
      refine ⟨rfl, ledTo_settle rfl fun wake' hturn => ?_⟩
      simp only [Run.turn, hturn, Stand.after, Turn.progress]
  | during attempts delay pass =>
    simp only [Provisioning.step, passEnd?]
    rcases pass.step link spec world with ⟨⟨⟩, world'⟩
    · exact ⟨(List.append_nil _).symm, .during attempts delay _⟩
    · exact ⟨(List.append_nil _).symm, rfl⟩
    · next result =>
      refine ⟨rfl, ledTo_settle rfl fun wake hturn => ?_⟩
      exact absurd hturn afterAttempt_ne_wait

/-- A course of steps of provisioning comes to this, with how its passes ended.  Anything may happen
to the world between two steps.  Steps that wait leave everything as it was and are left out. -/
inductive Provisioned (link : StoreLink σ) (spec : TopologySpec) (c : RetryConfig) :
    List (Outcome Error EnsuredList) →
      Progress Provisioning (Outcome (RetryError Error) ProvisionReport) → Prop
  /-- It begins. -/
  | start : Provisioned link spec c [] (.next (.start c))
  /-- A step. -/
  | step {passes : List (Outcome Error EnsuredList)} {p : Provisioning}
      (before : Provisioned link spec c passes (.next p)) (jitter : Float) (now : ℕ)
      (isCancelled : Bool) (world : σ) :
      Provisioned link spec c (passes ++ (passEnd? link spec world p).toList)
        (p.step link spec c jitter now isCancelled world).1

/-- **A course of provisioning is a run** whose calls are its passes. -/
theorem reached_of_provisioned (h : Provisioned link spec c passes progress) :
    ∃ s s' : Run Error EnsuredList, Reached setupConnection c s' ∧ s'.outcomes = passes ∧
      LedTo s s' progress := by
  induction h with
  | start =>
    let s : Run Error EnsuredList := { called := [], outcomes := [], stand := .between (.start c) }
    exact ⟨s, s, .start, rfl, .between (.start c)⟩
  | step before jitter now isCancelled world ih =>
    obtain ⟨s, s', hreached, rfl, hled⟩ := ih
    obtain ⟨houtcomes, hled'⟩ := turn_of_provisioning link spec jitter now world hled
    exact ⟨s', _, hreached.turn _ isCancelled, houtcomes, hled'⟩

end Provisioning

/-! ### In the long run -/

section LongRun

variable {m : ℕ}

lemma Events.isCancelled_mono (h : x.isCancelled n = true) (hle : n ≤ m) :
    x.isCancelled m = true := by
  simp only [isCancelled, Option.any_eq_true, decide_eq_true_eq] at h ⊢
  obtain ⟨k, hk, hn⟩ := h
  exact ⟨k, hk, hn.trans hle⟩

lemma called_mono (name : String) (c : RetryConfig) (x : Events ε α) :
    Monotone fun n => (run name c x n).called.length := by
  refine monotone_nat_of_le_succ fun n => ?_
  rcases called_turn name c (run name c x n) (x.event n) (x.isCancelled n) with
    h | ⟨-, attempts, h⟩
  · exact (congrArg List.length h).ge
  · exact (Nat.le_add_right _ _).trans (List.length_append.symm.trans (congrArg _ h.symm)).le

/-- Once it is cancelled, no call begins. -/
lemma called_of_cancelled (hcancelled : x.isCancelled n = true) (hle : n ≤ m) :
    (run name c x m).called = (run name c x n).called := by
  induction m, hle using Nat.le_induction with
  | base => rfl
  | succ m hle ih =>
    rcases called_turn name c (run name c x m) (x.event m) (x.isCancelled m) with
      h | ⟨hnot, -⟩
    · exact h.trans ih
    · rw [x.isCancelled_mono hcancelled hle] at hnot
      contradiction

/-- It ends with the turn after a cancellation, unless a call is under way. -/
lemma ended_of_cancelled {stage : Stage} (hstand : (run name c x n).stand = .between stage)
    (hcancelled : x.isCancelled n = true) :
    (run name c x (n + 1)).stand
      = .ended (.error (.cancelled name (run name c x n).called.length)) := by
  have hholds := (Sound.run name c x n).holds
  rw [hstand] at hholds
  simp only [run, Run.turn]
  rw [hstand, hcancelled]
  generalize (run name c x n).called.length = calls at hholds
  generalize (run name c x n).outcomes = outcomes at hholds
  cases hholds with
  | ready _ _ _ => rfl
  | pausing _ _ _ _ => rfl

/-- Every call ends some time, and the time passes. -/
structure Events.Fair (x : Events ε α) : Prop where
  answers : ∀ n, ∃ m ≥ n, (x.event m).answer ≠ none
  passes : ∀ n t, ∃ m ≥ n, t ≤ (x.event m).now

/-- What lasts until something else comes, and does not last, leads there. -/
lemma exists_next {p q : ℕ → Prop} (hp : p n) (hstep : ∀ m ≥ n, p m → p (m + 1) ∨ q (m + 1))
    (hleaves : ∃ m ≥ n, p m → q (m + 1)) : ∃ m > n, q m := by
  by_contra hnone
  -- nothing else ever comes, so it lasts for good
  have hnot : ∀ m ≥ n, ¬ q (m + 1) := fun m hle hq => hnone ⟨m + 1, Nat.lt_succ_of_le hle, hq⟩
  have hlasts : ∀ m ≥ n, p m := fun m hle => by
    induction m, hle using Nat.le_induction with
    | base => exact hp
    | succ m hle ih => exact (hstep m hle ih).resolve_right (hnot m hle)
  obtain ⟨m, hle, hleaves⟩ := hleaves
  exact hnot m hle (hleaves (hlasts m hle))

variable (hfair : x.Fair) (hendless : ∀ n result, (run name c x n).stand ≠ .ended result)

include hfair hendless

/-- An operation that does not end comes to be between calls. -/
lemma exists_between (n : ℕ) : ∃ m ≥ n, ∃ stage, (run name c x m).stand = .between stage := by
  cases hstand : (run name c x n).stand with
  | between stage => exact ⟨n, le_rfl, stage, hstand⟩
  | ended result => exact absurd hstand (hendless n result)
  | calling attempts delay =>
    have hanswered : ∀ m, (run name c x m).stand = .calling attempts delay →
        (x.event m).answer ≠ none → ∃ stage, (run name c x (m + 1)).stand = .between stage := by
      intro m hm hanswer
      obtain ⟨outcome, houtcome⟩ := Option.ne_none_iff_exists'.1 hanswer
      rcases (turn_of_answer hm houtcome).2 with hbetween | ⟨result, hended⟩
      · exact hbetween
      · exact absurd hended (hendless (m + 1) result)
    obtain ⟨m, hlt, hm⟩ := exists_next (n := n)
      (p := fun m => (run name c x m).stand = .calling attempts delay)
      (q := fun m => ∃ stage, (run name c x m).stand = .between stage) hstand
      (fun m _ hm => by
        cases hanswer : (x.event m).answer with
        | none =>
          refine .inl ?_
          rw [run, turn_of_calling hm hanswer]
          exact hm
        | some outcome => exact .inr (hanswered m hm (hanswer ▸ Option.some_ne_none outcome)))
      ((hfair.answers n).imp fun m ⟨hle, hanswer⟩ => ⟨hle, fun hm => hanswered m hm hanswer⟩)
    exact ⟨m, hlt.le, hm⟩

/-- It comes to be about to be called. -/
lemma exists_ready (n : ℕ) :
    ∃ m ≥ n, ∃ attempts delay, (run name c x m).stand = .between (.ready attempts delay) := by
  obtain ⟨n', hle', stage, hstand⟩ := exists_between hfair hendless n
  cases stage with
  | ready attempts delay => exact ⟨n', hle', attempts, delay, hstand⟩
  | pausing attempts delay wake =>
    have hstep : ∀ m, (run name c x m).stand = .between (.pausing attempts delay wake) →
        (∃ delay', (run name c x (m + 1)).stand = .between (.ready attempts delay')) ∨
          (x.event m).now < wake ∧ run name c x (m + 1) = run name c x m := by
      intro m hm
      rcases turn_of_pausing hm with ⟨result, hended⟩ | ⟨-, hgoes⟩
      · exact absurd hended (hendless (m + 1) result)
      · exact hgoes
    obtain ⟨m, hlt, delay', hm⟩ := exists_next (n := n')
      (p := fun m => (run name c x m).stand = .between (.pausing attempts delay wake))
      (q := fun m => ∃ delay', (run name c x m).stand = .between (.ready attempts delay')) hstand
      (fun m _ hm => by
        rcases hstep m hm with hready | ⟨-, hsame⟩
        · exact .inr hready
        · exact .inl (by rw [hsame]; exact hm))
      ((hfair.passes n' wake).imp fun m ⟨hle, hlate⟩ =>
        ⟨hle, fun hm => (hstep m hm).resolve_right fun h => h.1.not_ge hlate⟩)
    exact ⟨m, hle'.trans hlt.le, attempts, delay', hm⟩

/-- Another call begins. -/
lemma exists_call (n : ℕ) :
    ∃ m, x.isCancelled m = false ∧ n ≤ m ∧
      (run name c x n).called.length < (run name c x (m + 1)).called.length := by
  obtain ⟨m, hle, attempts, delay, hready⟩ := exists_ready hfair hendless n
  have hturn : if x.isCancelled m then ∃ result, (run name c x (m + 1)).stand = .ended result
      else (run name c x (m + 1)).called = (run name c x m).called ++ [attempts + 1] :=
    turn_of_ready hready
  cases hcancelled : x.isCancelled m with
  | true =>
    rw [hcancelled] at hturn
    obtain ⟨result, hended⟩ := hturn
    exact absurd hended (hendless (m + 1) result)
  | false =>
    rw [hcancelled] at hturn
    refine ⟨m, hcancelled, hle, ?_⟩
    calc (run name c x n).called.length
        ≤ (run name c x m).called.length := called_mono name c x hle
      _ < ((run name c x m).called ++ [attempts + 1]).length := by simp
      _ = (run name c x (m + 1)).called.length := congrArg List.length hturn.symm

/-- An operation that does not end is never cancelled, and is called again and again without a
limit. -/
lemma of_endless :
    c.maxAttempts = 0 ∧ x.cancelledFrom = none ∧ ∀ k, ∃ n, k ≤ (run name c x n).called.length := by
  have hunbounded : ∀ k, ∃ n, k ≤ (run name c x n).called.length := by
    intro k
    induction k with
    | zero => exact ⟨0, Nat.zero_le _⟩
    | succ k ih =>
      obtain ⟨n, hn⟩ := ih
      obtain ⟨m, -, -, hlt⟩ := exists_call hfair hendless n
      exact ⟨m + 1, hn.trans_lt hlt⟩
  refine ⟨?_, ?_, hunbounded⟩
  · by_contra hlimit
    obtain ⟨n, hn⟩ := hunbounded (c.maxAttempts + 1)
    have hle := (Sound.run name c x n).length_le (Nat.pos_of_ne_zero hlimit)
    omega
  · by_contra hsome
    obtain ⟨k, hk⟩ := Option.ne_none_iff_exists'.1 hsome
    have hcancelled : x.isCancelled k = true := by
      simp only [Events.isCancelled, hk, Option.any_some, le_refl, decide_true]
    obtain ⟨m, hnot, hle, -⟩ := exists_call hfair hendless k
    rw [x.isCancelled_mono hcancelled hle] at hnot
    contradiction

end LongRun

/-- **The last call settles a retried operation, or its cancellation does.**  However the calls end
and whenever it is cancelled, before a call, in one or in a pause:

* the calls are numbered from one, and every call but the last failed;
* once it is cancelled, no call begins, but a call that is under way goes on until it ends, and its
  outcome counts;
* it succeeds exactly with the value of its last call, and is exhausted exactly with the error of
  the last call that is permitted, be it cancelled meanwhile or not; without a limit it never is;
* otherwise it ends as cancelled, with the number of its calls, or crashes with a call or for want
  of a pause; cancelled where no call is under way, it ends at once;
* where calls end and time passes, it ends, unless it is neither limited nor cancelled and the calls
  never stop failing;
* and all this is said of the steps of the program: whatever the operation does and whatever comes
  between two steps, there are events in which these calls, with these outcomes, lead to where the
  steps lead. -/
theorem settled_by_last_call (name : String) (c : RetryConfig) (x : Events ε α) :
    let s := run name c x
    (∀ n, (s n).called = List.range' 1 (s n).called.length ∧
      ∀ i, i + 1 < (s n).called.length → ∃ e, (s n).outcomes[i]? = some (.error e)) ∧
    (∀ n m, x.isCancelled n = true → n ≤ m → (s m).called = (s n).called) ∧
    (∀ n attempts delay, (s n).stand = .calling attempts delay →
      match (x.event n).answer with
      | none => s (n + 1) = s n
      | some outcome => (s (n + 1)).outcomes = (s n).outcomes ++ [outcome]) ∧
    (∀ n k a, (s n).stand = .ended (.ok (k, a)) ↔
      k = (s n).called.length ∧ (s n).outcomes.getLast? = some (.ok a)) ∧
    (∀ n k e, (s n).stand = .ended (.error (.exhausted name k e)) ↔
      0 < c.maxAttempts ∧ k = c.maxAttempts ∧ (s n).outcomes.length = k ∧
        (s n).outcomes.getLast? = some (.error e)) ∧
    (∀ n result, (s n).stand = .ended result → (s n).outcomes.length = (s n).called.length ∧
      ((∃ k a, result = .ok (k, a)) ∨ (∃ k e, result = .error (.exhausted name k e)) ∨
        (result = .error (.cancelled name (s n).called.length) ∧
          ∃ i < n, x.isCancelled i = true) ∨
        (result = .crash ∧ ((s n).outcomes.getLast? = some .crash ∨
          Pauseless c x n (s n).called.length)))) ∧
    (∀ n stage, (s n).stand = .between stage → x.isCancelled n = true →
      (s (n + 1)).stand = .ended (.error (.cancelled name (s n).called.length))) ∧
    (x.Fair → (∃ n result, (s n).stand = .ended result) ∨
      c.maxAttempts = 0 ∧ x.cancelledFrom = none ∧ ∀ k, ∃ n, k ≤ (s n).called.length) ∧
    (∀ (σ : Type) (operation : ℕ → σ → Outcome ε α × σ) (calls : List (ℕ × Outcome ε α))
      (stand : Stand ε α), Stepped name c operation calls stand → ∃ x' n, run name c x' n
        = { called := calls.map Prod.fst, outcomes := calls.map Prod.snd, stand }) := by
  intro s
  have hsound : ∀ n, Sound name c x n (s n) := Sound.run name c x
  refine ⟨fun n => ⟨(hsound n).numbered, fun i hi => (hsound n).exists_error hi⟩,
    fun n m hcancelled hle => called_of_cancelled hcancelled hle,
    fun n attempts delay hcalling => ?_,
    fun n k a => (hsound n).ended_ok_iff, fun n k e => (hsound n).ended_exhausted_iff,
    fun n result hended => (hsound n).of_ended hended,
    fun n stage hstand hcancelled => ended_of_cancelled hstand hcancelled, fun hfair => ?_,
    fun σ operation calls stand hstepped => (reached_of_stepped hstepped).exists_run⟩
  · cases hanswer : (x.event n).answer with
    | none => exact turn_of_calling hcalling hanswer
    | some outcome => exact (turn_of_answer hcalling hanswer).1
  · by_cases hends : ∃ n result, (s n).stand = .ended result
    · exact .inl hends
    · exact .inr (of_endless hfair fun n result hended => hends ⟨n, result, hended⟩)

/-- Every call fails, and the second is under way when the operation is cancelled. -/
def Events.down : Events String Unit where
  event n := { now := 100 * n, jitter := 1.0, answer := some (.error "down") }
  cancelledFrom := some 4

/-- An operation that always fails. -/
def alwaysDown (_ : ℕ) (world : Unit) : Outcome String Unit × Unit :=
  (.error "down", world)

/-- The steps of the program lead to the same end. -/
theorem settled_by_last_call_cancelledMeanwhile :
    let c : RetryConfig := { maxAttempts := 2 }
    let s := run "connect" c .down
    (s 4).called = [1, 2] ∧ (s 4).stand = .calling 1 (.ofMillis 200) ∧
      Events.down.isCancelled 4 = true ∧
      (s 5).stand = .ended (.error (.exhausted "connect" 2 "down")) ∧
      Events.down.Fair ∧ (∃ n result, (s n).stand = .ended result) ∧
      Stepped "connect" c alwaysDown [(1, .error "down"), (2, .error "down")]
        (.ended (.error (.exhausted "connect" 2 "down"))) ∧
      ∃ x n, run "connect" c x n
        = { called := [1, 2], outcomes := (s 5).outcomes, stand := (s 5).stand } := by
  intro c s
  have hfair : Events.down.Fair :=
    ⟨fun n => ⟨n, le_rfl, Option.some_ne_none _⟩,
      fun n t => ⟨n + t, Nat.le_add_right n t, by simp only [Events.down]; omega⟩⟩
  obtain ⟨-, -, -, -, hexhausted, -, -, hends, hsteps⟩ := settled_by_last_call "connect" c .down
  have hlast : (s 5).outcomes = [.error "down", .error "down"] := by decide +kernel
  have hfailed : Stepped "connect" c alwaysDown [(1, .error "down")]
      (.between (.pausing 1 (.ofMillis 100) 100)) :=
    Stepped.start.step 1.0 0 false () (by decide +kernel) (by decide +kernel)
  have hpaused : Stepped "connect" c alwaysDown [(1, .error "down")]
      (.between (.ready 1 (.ofMillis 200))) :=
    hfailed.step 1.0 100 false () (by decide +kernel) (by decide +kernel)
  have hstepped : Stepped "connect" c alwaysDown [(1, .error "down"), (2, .error "down")]
      (.ended (.error (.exhausted "connect" 2 "down"))) :=
    hpaused.step 1.0 100 false () (by decide +kernel) (by decide +kernel)
  have hended : (s 5).stand = .ended (.error (.exhausted "connect" 2 "down")) := by
    refine (hexhausted 5 2 "down").2 ⟨Nat.two_pos, rfl, ?_⟩
    rw [hlast]
    exact ⟨rfl, rfl⟩
  refine ⟨by decide +kernel, by decide +kernel, rfl, hended, hfair, ?_, hstepped, ?_⟩
  · exact (hends hfair).resolve_right fun h => absurd h.1 (by decide)
  · rw [hlast, hended]
    exact hsteps Unit alwaysDown _ _ hstepped

/-- Cancelled beforehand, it is never called. -/
example : run "connect" {} { Events.down with cancelledFrom := some 0 } 1
    = { called := [], outcomes := [], stand := .ended (.error (.cancelled "connect" 0)) } := rfl

/-- **The last pass settles provisioning.**  Whatever comes between its steps, every pass but the
last failed; it reports success exactly with what the last pass did, and the number of passes; it is
exhausted exactly with the error of the last pass that is permitted; otherwise it was cancelled
after so many passes, or crashed. -/
theorem provisioning_settled_by_last_pass {σ : Type} {link : StoreLink σ} {spec : TopologySpec}
    {c : RetryConfig} {passes : List (Outcome Error EnsuredList)}
    {report : Outcome (RetryError Error) ProvisionReport}
    (h : Provisioned link spec c passes (.done report)) :
    (∀ i, i + 1 < passes.length → ∃ e, passes[i]? = some (.error e)) ∧
    (∀ r : ProvisionReport, report = .ok r ↔
      r.attempts = passes.length ∧ passes.getLast? = some (.ok r.outcomes)) ∧
    (∀ k e, report = .error (.exhausted setupConnection k e) ↔
      0 < c.maxAttempts ∧ k = c.maxAttempts ∧ passes.length = k ∧
        passes.getLast? = some (.error e)) ∧
    ((∃ r, report = .ok r) ∨ (∃ k e, report = .error (.exhausted setupConnection k e)) ∨
      report = .error (.cancelled setupConnection passes.length) ∨ report = .crash) := by
  obtain ⟨-, s, hreached, rfl, result, hended, rfl⟩ := reached_of_provisioned h
  obtain ⟨x, n, rfl⟩ := hreached.exists_run
  have hsound : Sound setupConnection c x n (run setupConnection c x n) :=
    .run setupConnection c x n
  obtain ⟨hlength, hcases⟩ := hsound.of_ended hended
  have hok : ∀ r : ProvisionReport,
      result.map (fun (attempts, outcomes) => { attempts, outcomes }) = .ok r ↔
        (run setupConnection c x n).stand = .ended (.ok (r.attempts, r.outcomes)) := by
    rintro ⟨attempts, outcomes⟩
    rw [hended]
    cases result <;> simp [Outcome.map, Prod.ext_iff]
  have hexhausted : ∀ k e,
      result.map (fun (attempts, outcomes) => ({ attempts, outcomes } : ProvisionReport))
        = .error (.exhausted setupConnection k e) ↔
        (run setupConnection c x n).stand = .ended (.error (.exhausted setupConnection k e)) := by
    intro k e
    rw [hended]
    cases result <;> simp [Outcome.map]
  refine ⟨fun i hi => hsound.exists_error (hlength ▸ hi),
    fun r => (hok r).trans (hlength ▸ hsound.ended_ok_iff),
    fun k e => (hexhausted k e).trans hsound.ended_exhausted_iff, ?_⟩
  rcases hcases with ⟨k, a, rfl⟩ | ⟨k, e, rfl⟩ | ⟨rfl, -⟩ | ⟨rfl, -⟩
  · exact .inl ⟨_, rfl⟩
  · exact .inr (.inl ⟨k, e, rfl⟩)
  · exact .inr (.inr (.inl (by rw [hlength]; rfl)))
  · exact .inr (.inr (.inr rfl))

end Retry

end EdgeNode
