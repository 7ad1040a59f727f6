import EdgeNode.Agent
import EdgeNode.Proofs.Files
import Mathlib.Data.List.Basic
import Mathlib.Logic.Function.Basic
/-!
# Who is told that an agent server is ready

Callbacks are registered with an agent server at any time, and any number of its runs may be under
way.  The first turn of a run writes the status, or ends the run if that cannot be written; the next
one calls everything that is pending.  `Service` follows a server through such events, whatever host
each turn finds, and notes which run called what.  What was called and what is pending are together
what was registered, in order (`Service.called_append_pending`), so nothing is called twice.
-/

namespace EdgeNode

namespace AgentServer

/-! ### Turns of a run -/

/-- Why the status cannot be written on a host.  There is no fault if it is written, or if there is
none to write. -/
def statusFault? (a : AgentServer) (h : Host) : Option Error :=
  match a.config.operational? with
  | none => none
  | some s =>
    match (a.writeStatus h.files s.statusFile).1 with
    | .ok () => none
    | .error e => some e

/-- The files that the status leaves on a host when it is written, or when writing it fails. -/
def statusFiles (a : AgentServer) (h : Host) : Files :=
  match a.config.operational? with
  | none => h.files
  | some s => (a.writeStatus h.files s.statusFile).2

variable {a : AgentServer} {h : Host} {t : StopToken} {stage : Stage}

/-- The status that was written is read from its file. -/
lemma read_writeStatus {f f' : Files} {path : String}
    (h : a.writeStatus f path = (.ok (), f')) :
    f'.read path = .ok (Bytes.ofText a.statusDocument.pretty) := by
  simp only [writeStatus, Files.writeKeyFile] at h
  split at h
  · cases h
  · next f₁ _ =>
    cases hwritten : f₁.writeWithMode path (Bytes.ofText a.statusDocument.pretty)
      publicFileMode with
    | error e =>
      rw [hwritten] at h
      cases h
    | ok f₂ =>
      rw [hwritten] at h
      obtain rfl : f₂ = f' := congrArg Prod.snd h
      exact Files.read_writeWithMode hwritten

/-- Where the status has no fault, it is in its file. -/
lemma read_statusFiles {s : OperationalSettings} (hsettings : a.config.operational? = some s)
    (hfault : a.statusFault? h = none) :
    (a.statusFiles h).read s.statusFile = .ok (Bytes.ofText a.statusDocument.pretty) := by
  simp only [statusFault?, hsettings] at hfault
  simp only [statusFiles, hsettings]
  rcases hwritten : a.writeStatus h.files s.statusFile with ⟨e | _, files⟩
  · simp only [hwritten] at hfault
    contradiction
  · exact read_writeStatus hwritten

/-- The first turn of a run calls nobody.  It gets the run on just when the status has no fault. -/
lemma step_starting (hcourse : a.course = none) :
    (a.step h t .starting).1
        = (match a.statusFault? h with
          | some e => .done (.error e)
          | none => .next .ready) ∧
      (a.step h t .starting).2.1 = { h with files := a.statusFiles h } ∧
      (a.step h t .starting).2.2 = a := by
  simp only [step, statusFault?, statusFiles, hcourse]
  cases a.config.operational? with
  | none => exact ⟨rfl, rfl, rfl⟩
  | some s =>
    dsimp only
    rcases a.writeStatus h.files s.statusFile with ⟨_ | _, files⟩
    · exact ⟨rfl, rfl, rfl⟩
    · exact ⟨rfl, rfl, rfl⟩

lemma called_firstPause (h : Host) (s : OperationalSettings) :
    (firstPause h s).2.called = h.called := by
  unfold firstPause
  split <;> rfl

/-- The turn behind it calls everything that is pending, in order. -/
lemma step_ready (a : AgentServer) (h : Host) (t : StopToken) :
    (a.step h t .ready).2.1.called = h.called ++ a.pending ∧
      (a.step h t .ready).2.2 = { a with pending := [] } := by
  simp only [step]
  split
  · exact ⟨rfl, rfl⟩
  · next s _ => exact ⟨called_firstPause (h.call a.pending) s, rfl⟩

/-- All later turns call nobody. -/
lemma step_serving (hcourse : a.course = none) (hstarting : stage ≠ .starting)
    (hready : stage ≠ .ready) :
    (a.step h t stage).2.1.called = h.called ∧ (a.step h t stage).2.2 = a := by
  cases stage with
  | starting => contradiction
  | ready => contradiction
  | idle =>
    simp only [step]
    split <;> exact ⟨rfl, rfl⟩
  | pausing wake =>
    simp only [step]
    split
    · exact ⟨rfl, rfl⟩
    · split <;> exact ⟨rfl, rfl⟩
  | course start => constructor <;> simp only [step, hcourse]

/-! ### A server with its runs -/

/-- What happens to an agent server.  A run begins with its first turn. -/
inductive Event where
  /-- A callback is registered. -/
  | registered (h : Host) (c : Callback)
  /-- A run, told by its number, takes a turn on the host that it finds. -/
  | turn (run : ℕ) (h : Host) (t : StopToken)

/-- The callbacks that are registered, in order. -/
def registrations (events : List Event) : List Callback :=
  events.filterMap fun
    | .registered _ c => some c
    | .turn .. => none

/-- How a run stands. -/
inductive Standing where
  /-- It is at a stage. -/
  | underWay (stage : Stage)
  /-- It has returned. -/
  | ended (outcome : Outcome Error Unit)

/-- How a run stands that has made progress at a stage. -/
def Standing.after (stage : Stage) : Progress Stage (Outcome Error Unit) → Standing
  | .next stage' => .underWay stage'
  | .wait _ => .underWay stage
  | .done outcome => .ended outcome

/-- A run is about to call once at most: no turn but its first brings it there. -/
lemma Standing.after_ne_ready (hcourse : a.course = none) (hstarting : stage ≠ .starting) :
    Standing.after stage (a.step h t stage).1 ≠ .underWay .ready := by
  cases stage with
  | starting => contradiction
  | ready =>
    simp only [step]
    split <;> simp [Standing.after]
  | idle =>
    simp only [step]
    split <;> simp [Standing.after]
  | pausing wake =>
    simp only [step]
    split
    · simp [Standing.after]
    · split <;> simp [Standing.after]
  | course start => simp [step, hcourse, Standing.after]

/-- An agent server, its runs, and what was called by which of them. -/
structure Service where
  /-- The server. -/
  server : AgentServer
  /-- How each run stands; one that has had no turn is about to start. -/
  runs : ℕ → Standing := fun _ => .underWay .starting
  /-- The callbacks that were called, in order, each with the run that called it. -/
  called : List (ℕ × Callback) := []

namespace Service

/-- The service after an event. -/
def after (s : Service) : Event → Service
  | .registered h c => { s with server := (s.server.register h c).1 }
  | .turn run h t =>
    match s.runs run with
    | .ended _ => s
    | .underWay stage =>
      match s.server.step h t stage with
      | (progress, h', server) =>
        { server
          runs := Function.update s.runs run (.after stage progress)
          called := s.called ++ (h'.called.drop h.called.length).map fun c => (run, c) }

/-- The host that a turn of a run leaves. -/
def hostAfter (s : Service) (run : ℕ) (h : Host) (t : StopToken) : Host :=
  match s.runs run with
  | .ended _ => h
  | .underWay stage => (s.server.step h t stage).2.1

/-- The service after events. -/
def play (s : Service) (events : List Event) : Service :=
  events.foldl after s

/-- The run that is past its status and calls in an event, if there is one. -/
def caller? (s : Service) : Event → Option ℕ
  | .registered .. => none
  | .turn run _ _ =>
    match s.runs run with
    | .underWay .ready => some run
    | _ => none

/-- The first run that calls in the course of events. -/
def firstCaller? (s : Service) : List Event → Option ℕ
  | [] => none
  | e :: events => (s.caller? e).or ((s.after e).firstCaller? events)

/-- Nobody is called, and what is pending stays so. -/
structure Keeps (s s' : Service) : Prop where
  called : s'.called = s.called
  pending : s'.server.pending = s.server.pending

variable {s : Service} {run : ℕ} {e : Event} {events : List Event} {c : Callback}

/-! ### One event -/

lemma after_turn (hrun : s.runs run = .underWay stage) :
    s.after (.turn run h t) =
      { server := (s.server.step h t stage).2.2
        runs := Function.update s.runs run (.after stage (s.server.step h t stage).1)
        called := s.called ++
          ((s.server.step h t stage).2.1.called.drop h.called.length).map fun c => (run, c) } := by
  simp only [after, hrun]

lemma after_starting (hcourse : s.server.course = none) (hrun : s.runs run = .underWay .starting)
    (h : Host) (t : StopToken) :
    (s.after (.turn run h t)).runs run
        = (match s.server.statusFault? h with
          | some e => .ended (.error e)
          | none => .underWay .ready) ∧
      s.Keeps (s.after (.turn run h t)) ∧ (s.after (.turn run h t)).server = s.server := by
  obtain ⟨hprogress, hhost, hserver⟩ := step_starting (h := h) (t := t) hcourse
  rw [after_turn hrun, hprogress, hhost, hserver]
  refine ⟨?_, ⟨by simp, rfl⟩, rfl⟩
  show Function.update s.runs run _ run = _
  rw [Function.update_self]
  cases s.server.statusFault? h <;> rfl

lemma hostAfter_starting (hcourse : s.server.course = none)
    (hrun : s.runs run = .underWay .starting) (h : Host) (t : StopToken) :
    s.hostAfter run h t = { h with files := s.server.statusFiles h } := by
  simp only [hostAfter, hrun]
  exact (step_starting hcourse).2.1

lemma after_ready (hrun : s.runs run = .underWay .ready) (h : Host) (t : StopToken) :
    (s.after (.turn run h t)).called = s.called ++ s.server.pending.map (fun c => (run, c)) ∧
      (s.after (.turn run h t)).server = { s.server with pending := [] } := by
  obtain ⟨hcalled, hserver⟩ := step_ready s.server h t
  rw [after_turn hrun, hcalled, hserver, List.drop_left]
  exact ⟨rfl, rfl⟩

lemma after_serving (hcourse : s.server.course = none)
    (hstarting : s.runs run ≠ .underWay .starting) (hready : s.runs run ≠ .underWay .ready)
    (h : Host) (t : StopToken) :
    s.Keeps (s.after (.turn run h t)) ∧ (s.after (.turn run h t)).server = s.server := by
  cases hrun : s.runs run with
  | ended outcome =>
    have hsame : s.after (.turn run h t) = s := by simp only [after, hrun]
    rw [hsame]
    exact ⟨⟨rfl, rfl⟩, rfl⟩
  | underWay stage =>
    have hnotStarting : stage ≠ .starting := fun heq => hstarting (heq ▸ hrun)
    have hnotReady : stage ≠ .ready := fun heq => hready (heq ▸ hrun)
    obtain ⟨hcalled, hserver⟩ := step_serving (h := h) (t := t) hcourse hnotStarting hnotReady
    rw [after_turn hrun, hcalled, hserver]
    exact ⟨⟨by simp, rfl⟩, rfl⟩

lemma runs_after_ne_ready (hcourse : s.server.course = none)
    (hstarting : s.runs run ≠ .underWay .starting) (h : Host) (t : StopToken) :
    (s.after (.turn run h t)).runs run ≠ .underWay .ready := by
  cases hrun : s.runs run with
  | ended outcome => simp [after, hrun]
  | underWay stage =>
    rw [after_turn hrun]
    show Function.update s.runs run _ run ≠ _
    rw [Function.update_self]
    exact Standing.after_ne_ready hcourse fun heq => hstarting (heq ▸ hrun)

lemma caller?_turn_eq_none (hready : s.runs run ≠ .underWay .ready) :
    s.caller? (.turn run h t) = none := by
  simp only [caller?]

/-- An event in which no run calls at most adds a callback to those that are pending; otherwise all
of them are called by the run, in order, and none is left. -/
lemma after_cases (hcourse : s.server.course = none) (e : Event) :
    (s.after e).server.course = none ∧
      ((s.caller? e = none ∧ (s.after e).called = s.called ∧
          (s.after e).server.pending = s.server.pending ++ registrations [e]) ∨
        ∃ run, s.caller? e = some run ∧ registrations [e] = [] ∧
          (s.after e).called = s.called ++ s.server.pending.map (fun c => (run, c)) ∧
          (s.after e).server.pending = []) := by
  cases e with
  | registered h c =>
    have hserver : (s.after (.registered h c)).server
        = { s.server with pending := s.server.pending ++ [c] } := by
      simp only [after, register, hcourse]
    rw [hserver]
    exact ⟨hcourse, .inl ⟨rfl, rfl, rfl⟩⟩
  | turn run h t =>
    have hkeeps : s.runs run ≠ .underWay .ready →
        s.Keeps (s.after (.turn run h t)) ∧ (s.after (.turn run h t)).server = s.server := by
      intro hready
      by_cases hstarting : s.runs run = .underWay .starting
      · exact (after_starting hcourse hstarting h t).2
      · exact after_serving hcourse hstarting hready h t
    by_cases hready : s.runs run = .underWay .ready
    · obtain ⟨hcalled, hserver⟩ := after_ready hready h t
      rw [hserver]
      have hcaller : s.caller? (.turn run h t) = some run := by
        simp only [caller?, hready]
      exact ⟨hcourse, .inr ⟨run, hcaller, rfl, hcalled, rfl⟩⟩
    · obtain ⟨hkept, hserver⟩ := hkeeps hready
      rw [hserver]
      have hnone : s.server.pending = s.server.pending ++ registrations [.turn run h t] :=
        (List.append_nil _).symm
      exact ⟨hcourse, .inl ⟨caller?_turn_eq_none hready, hkept.called, hnone⟩⟩

/-! ### The course of events -/

lemma play_cons (s : Service) (e : Event) (events : List Event) :
    s.play (e :: events) = (s.after e).play events := rfl

lemma play_append (s : Service) (before after : List Event) :
    s.play (before ++ after) = (s.play before).play after :=
  List.foldl_append

lemma registrations_cons (e : Event) (events : List Event) :
    registrations (e :: events) = registrations [e] ++ registrations events :=
  List.filterMap_append (l := [e])

/-- What is called and what is pending grow by what is registered. -/
lemma called_append_pending (hcourse : s.server.course = none) (events : List Event) :
    (s.play events).server.course = none ∧
      (s.play events).called.map Prod.snd ++ (s.play events).server.pending
        = s.called.map Prod.snd ++ s.server.pending ++ registrations events := by
  induction events generalizing s with
  | nil => exact ⟨hcourse, (List.append_nil _).symm⟩
  | cons e events ih =>
    obtain ⟨hcourse', hcases⟩ := after_cases hcourse e
    obtain ⟨hfinal, hplayed⟩ := ih hcourse'
    refine ⟨hfinal, ?_⟩
    rw [play_cons, hplayed, registrations_cons]
    rcases hcases with ⟨-, hcalled, hpending⟩ | ⟨run, -, hnone, hcalled, hpending⟩
    · rw [hcalled, hpending]
      simp only [List.append_assoc]
    · rw [hcalled, hpending, hnone, List.map_append, List.map_map]
      simp [Function.comp_def]

/-- What was called stays called. -/
lemma called_prefix (hcourse : s.server.course = none) (events : List Event) :
    s.called <+: (s.play events).called := by
  induction events generalizing s with
  | nil => exact List.prefix_rfl
  | cons e events ih =>
    obtain ⟨hcourse', hcases⟩ := after_cases hcourse e
    have hone : s.called <+: (s.after e).called := by
      rcases hcases with ⟨-, hcalled, -⟩ | ⟨run, -, -, hcalled, -⟩
      · exact hcalled ▸ List.prefix_rfl
      · exact hcalled ▸ List.prefix_append _ _
    exact hone.trans (ih hcourse')

/-- A callback that is pending is called by the first run that calls, if one does. -/
lemma called_of_pending (hcourse : s.server.course = none) {i : ℕ}
    (hpending : s.server.pending[i]? = some c) (events : List Event) :
    (s.play events).called[s.called.length + i]?
      = (s.firstCaller? events).map fun run => (run, c) := by
  induction events generalizing s with
  | nil => simp [play, firstCaller?]
  | cons e events ih =>
    obtain ⟨hcourse', hcases⟩ := after_cases hcourse e
    rw [play_cons, firstCaller?]
    rcases hcases with ⟨hcaller, hcalled, hwaits⟩ | ⟨run, hcaller, -, hcalled, -⟩
    · -- it is still pending, at the same place
      have hstill : (s.after e).server.pending[i]? = some c := by
        rw [hwaits]
        exact List.getElem?_append_left (List.getElem?_eq_some_iff.1 hpending).1 ▸ hpending
      rw [hcaller, Option.none_or, ← ih hcourse' hstill, hcalled]
    · have hnow : (s.after e).called[s.called.length + i]? = some (run, c) := by
        rw [hcalled, List.getElem?_append_right (Nat.le_add_right _ _), Nat.add_sub_cancel_left,
          List.getElem?_map, hpending]
        rfl
      obtain ⟨later, hlater⟩ := called_prefix hcourse' events
      rw [hcaller, Option.some_or, Option.map_some, ← hlater]
      exact List.getElem?_append_left (List.getElem?_eq_some_iff.1 hnow).1 ▸ hnow

/-- A callback is pending behind the others once it is registered, and so it is called by the first
run that calls after that. -/
lemma called_of_registered (hcourse : s.server.course = none) (before : List Event) (h : Host)
    (c : Callback) (after : List Event) :
    (s.play (before ++ .registered h c :: after)).called[
        s.called.length + s.server.pending.length + (registrations before).length]?
      = ((s.play (before ++ [.registered h c])).firstCaller? after).map fun run => (run, c) := by
  obtain ⟨hcourse', hconserved⟩ := called_append_pending hcourse before
  have hregistered : ((s.play before).after (.registered h c)).server.pending
      = (s.play before).server.pending ++ [c] := by
    simp only [Service.after, register, hcourse']
  have hlast : ((s.play before).after (.registered h c)).server.pending[
      (s.play before).server.pending.length]? = some c := by
    rw [hregistered, List.getElem?_concat_length]
  have hplace : s.called.length + s.server.pending.length + (registrations before).length
      = ((s.play before).after (.registered h c)).called.length
        + (s.play before).server.pending.length := by
    have hlength := congrArg List.length hconserved
    simp only [List.length_append, List.length_map] at hlength
    exact hlength.symm
  rw [hplace, play_append, play_append]
  exact called_of_pending (after_cases hcourse' _).1 hlast after

/-- What the turns of a run do. -/
structure Opens (s : Service) (run : ℕ) (h : Host) (t : StopToken) : Prop where
  /-- A run whose status cannot be written ends with that error, calls nothing and leaves everything
  pending. -/
  refused : s.runs run = .underWay .starting → ∀ e, s.server.statusFault? h = some e →
    (s.after (.turn run h t)).runs run = .ended (.error e) ∧ s.Keeps (s.after (.turn run h t))
  /-- Any other gets past its status.  The host then has the files that writing it left, and the
  status is read from its file, if there is one to write. -/
  written : s.runs run = .underWay .starting → s.server.statusFault? h = none →
    (s.after (.turn run h t)).runs run = .underWay .ready ∧ s.Keeps (s.after (.turn run h t)) ∧
      (s.hostAfter run h t).files = s.server.statusFiles h ∧
      ∀ o, s.server.config.operational? = some o →
        (s.hostAfter run h t).files.read o.statusFile
          = .ok (Bytes.ofText s.server.statusDocument.pretty)
  /-- A run that is past its status calls everything that is pending, in order. -/
  calls : s.runs run = .underWay .ready →
    (s.after (.turn run h t)).called = s.called ++ s.server.pending.map (fun c => (run, c)) ∧
      (s.after (.turn run h t)).server.pending = []
  /-- Behind that it calls nothing. -/
  serves : s.runs run ≠ .underWay .starting → s.runs run ≠ .underWay .ready →
    s.Keeps (s.after (.turn run h t))
  /-- It does not come to call again. -/
  once : s.runs run ≠ .underWay .starting →
    (s.after (.turn run h t)).runs run ≠ .underWay .ready

lemma opens (hcourse : s.server.course = none) (run : ℕ) (h : Host) (t : StopToken) :
    s.Opens run h t where
  refused hstarting e hfault := by
    obtain ⟨hruns, hkeeps, -⟩ := after_starting hcourse hstarting h t
    rw [hfault] at hruns
    exact ⟨hruns, hkeeps⟩
  written hstarting hfault := by
    obtain ⟨hruns, hkeeps, -⟩ := after_starting hcourse hstarting h t
    rw [hfault] at hruns
    rw [hostAfter_starting hcourse hstarting]
    exact ⟨hruns, hkeeps, rfl, fun o hsettings => read_statusFiles hsettings hfault⟩
  calls hready := by
    obtain ⟨hcalled, hserver⟩ := after_ready hready h t
    exact ⟨hcalled, by rw [hserver]⟩
  serves hstarting hready := (after_serving hcourse hstarting hready h t).1
  once hstarting := runs_after_ne_ready hcourse hstarting h t

/-- A server that was just built, with no run yet. -/
def new (config : ServerConfig) (inProcess : Bool) (built : ℕ) : Service where
  server := { config, inProcess, built }

/-- **Callbacks are called once, by the first run that gets past its status.**  Whatever happens to
a new agent server, in either mode: what was called, in order, and what is pending behind it are
what was registered, in order; a callback is called by the first run that calls anything after it
was registered; and a run calls everything that is pending in the turn behind the one that writes
its status to the host, unless that turn ends it (`Opens`). -/
theorem called_by_first_ready (config : ServerConfig) (inProcess : Bool) (built : ℕ)
    (events : List Event) :
    ((new config inProcess built).play events).called.map Prod.snd
        ++ ((new config inProcess built).play events).server.pending = registrations events ∧
    (∀ before h c after, events = before ++ .registered h c :: after →
      ((new config inProcess built).play events).called[(registrations before).length]?
        = (((new config inProcess built).play (before ++ [.registered h c])).firstCaller?
            after).map fun run => (run, c)) ∧
    ∀ run h t, ((new config inProcess built).play events).Opens run h t := by
  have hnew : (new config inProcess built).server.course = none := rfl
  obtain ⟨hcourse, hconserved⟩ := called_append_pending hnew events
  refine ⟨hconserved, ?_, opens hcourse⟩
  rintro before h c after rfl
  have hcalled := called_of_registered hnew before h c after
  have hstart : (new config inProcess built).called.length
      + (new config inProcess built).server.pending.length + (registrations before).length
      = (registrations before).length := Nat.zero_add _
  rwa [hstart] at hcalled

/-- The settings of a provisioned node with its status in a directory of its own. -/
def statusSettings : OperationalSettings where
  seedFile := "/etc/node/server.seed"
  tokenFile := "/etc/node/server.jwt"
  machinesDirectory := "/etc/node/machines"
  signerKey := ""
  statusFile := "/state/status.json"
  submissionSpool := "/state/submission"
  submissionSpoolSize := 5000
  registrationInterval := .ofSecs 300
  registrationSplay := true
  registration := []
  registrationTarget := registrationTarget
  collectives := [defaultCollective]
  mainCollective := defaultCollective
  factsFile := "/etc/node/instance.json"

/-- The configuration with these settings. -/
def statusConfig : ServerConfig where
  configFile := "/etc/node/server.conf"
  identity := "n1"
  settings := .operational statusSettings

/-- A host on which a file stands where the status has its directory. -/
def obstructed : Host where
  files := { entries := [(["state"], .file [] 0o644)] }

/-- A callback is registered, a run cannot write its status, and another callback is registered. -/
def obstructedStart : List Event :=
  [.registered {} 7, .turn 0 obstructed 0, .registered {} 8]

/-- Then a run serves, and there is a third callback. -/
def obstructedEvents : List Event :=
  obstructedStart ++ [.turn 1 {} 0, .turn 1 {} 0, .registered {} 9]

/-- The second run writes its status to the file and calls what the first one left, and the third
callback waits for another. -/
theorem called_by_first_ready_obstructed :
    ((new statusConfig false 0).play obstructedEvents).called[0]? = some (1, 7) ∧
      ((new statusConfig false 0).play obstructedEvents).called[1]? = some (1, 8) ∧
      ((new statusConfig false 0).play obstructedEvents).called[2]? = none ∧
      ((new statusConfig false 0).play [.registered {} 7]).server.statusFault? obstructed
        = some (.io "/state" .alreadyExists) ∧
      (((new statusConfig false 0).play [.registered {} 7]).after (.turn 0 obstructed 0)).runs 0
        = .ended (.error (.io "/state" .alreadyExists)) ∧
      (((new statusConfig false 0).play obstructedStart).hostAfter 1 {} 0).files.read
          statusSettings.statusFile
        = .ok (Bytes.ofText (new statusConfig false 0).server.statusDocument.pretty) := by
  obtain ⟨-, hcalled, -⟩ := called_by_first_ready statusConfig false 0 obstructedEvents
  obtain ⟨-, -, hfails⟩ := called_by_first_ready statusConfig false 0 [.registered {} 7]
  obtain ⟨-, -, hserves⟩ := called_by_first_ready statusConfig false 0 obstructedStart
  have hfirst := hcalled [] _ 7 _ rfl
  have hsecond := hcalled [.registered {} 7, .turn 0 obstructed 0] _ 8 _ rfl
  have hthird := hcalled (obstructedStart ++ [.turn 1 {} 0, .turn 1 {} 0]) _ 9 _ rfl
  have hfault : ((new statusConfig false 0).play [.registered {} 7]).server.statusFault? obstructed
      = some (.io "/state" .alreadyExists) := by decide +kernel
  have hfree : ((new statusConfig false 0).play obstructedStart).server.statusFault? {} = none := by
    decide +kernel
  obtain ⟨-, -, -, hread⟩ := (hserves 1 {} 0).written rfl hfree
  refine ⟨hfirst.trans ?_, hsecond.trans ?_, hthird.trans ?_, hfault, ?_, hread _ rfl⟩
  · decide +kernel
  · decide +kernel
  · rfl
  · exact ((hfails 0 obstructed 0).refused rfl _ hfault).1

end Service

end AgentServer

end EdgeNode
