import TapeDeck.Proofs.Machine.Alike
import TapeDeck.Screen.Update

/-!
# What a message can do to a screen

A screen changes only by messages and by a new tape size for the loads to come. `Screen.Change`
lists what a message can do, each case with its guard, the screen after it and the tick it asks
for; `Screen.change_update` says that these are all the cases. Invariants of screens are proved from it,
without opening `Screen.update`.

`Screen.run` applies a sequence of events to a screen.
-/

namespace TapeDeck

/-- The run of the tick that a reaction asks for, if it asks for one. -/
def Reaction.tick? (r : Reaction) : Option Int :=
  match r.request with
  | some (.tick runId) => some runId
  | _ => none

namespace Screen

/-! ## One step -/

theorem record_eq (s : Screen) (r : StepReport) :
    s.record r =
      { s with
        history := s.history ++ r.executed?.toList
        track :=
          if s.settings.recording then s.track.cueAll r.command.toList else s.track } := by
  unfold record StepReport.executed?
  cases r.command with
  | none => simp [Track.cueAll]
  | some b => simp [Track.cueAll]

/-- A step of a screen, field by field. -/
theorem step_screen (s : Screen) :
    s.step.screen =
      { s with
        machine := s.machine.step.machine
        history := s.history ++ s.machine.step.result.executed?.toList
        ended := s.ended || s.machine.step.result.halt.isSome
        error := (s.machine.step.fault.map ScreenError.unbalanced).or s.error
        track :=
          if s.settings.recording then s.track.cueAll s.machine.step.result.command.toList
          else s.track } := by
  unfold step
  simp only [record_eq]
  generalize s.machine.step = stepped
  obtain ⟨m, r, fault⟩ := stepped
  cases fault <;> cases r.halt <;> simp

theorem step_machine (s : Screen) : s.step.screen.machine = s.machine.step.machine := by
  rw [step_screen]

theorem step_runId (s : Screen) : s.step.screen.runId = s.runId := by
  rw [step_screen]

theorem step_partners (s : Screen) : s.step.screen.partners = s.partners := by
  rw [step_screen]

theorem step_tick? (s : Screen) : s.step.tick? = none := by
  unfold step
  dsimp only
  split <;> rfl

/-! ## What a message can do -/

/-- The message makes the screen step its machine: the step key on a program that has not ended and
that no timer drives, or a tick of the current run while the timer drives it. -/
def accepts (s : Screen) : Message → Bool
  | .key k => k.name == "s" && !s.ended && s.machine.status != .running
  | .tick runId => runId == s.runId && s.machine.status == .running
  | .load _ => false
  | .other => false

/-- What a message can do: the screen after it, and the run of the tick it asks for. -/
inductive Change (s : Screen) : Message → Screen → Option Int → Prop
  | ignore {msg : Message} (quiet : s.accepts msg = false) (no_load : ∀ p, msg ≠ .load p) :
      Change s msg s none
  | stepKey {k : Key} (accepted : s.accepts (.key k) = true) (idle : s.machine.status ≠ .running) :
      Change s (.key k) s.step.screen none
  | runKey {k : Key} (quiet : s.accepts (.key k) = false) (idle : s.machine.status ≠ .running) :
      Change s (.key k) { s with machine := s.machine.run, runId := s.runId + 1 }
        (some (s.runId + 1))
  | pauseKey {k : Key} (quiet : s.accepts (.key k) = false) :
      Change s (.key k) { s with machine := s.machine.pause } none
  | tick (accepted : s.accepts (.tick s.runId) = true) (driven : s.machine.status = .running) :
      Change s (.tick s.runId) s.step.screen
        (if s.machine.step.machine.status = .running then some s.runId else none)
  | load {p : Program} {m : Machine}
      (loaded : Machine.load? p.source s.settings.tapeSize = .ok m) :
      Change s (.load p) (start { s.settings with program := p } m (s.runId + 1)) none
  | refuse {p : Program} {e : InvalidTapeSize}
      (refused : Machine.load? p.source s.settings.tapeSize = .error e) :
      Change s (.load p)
        { s with settings := { s.settings with program := p }, error := some (.tapeSize e) } none

theorem isIdle_iff (s : Screen) :
    s.isIdle = true ↔ s.ended = false ∧ s.machine.status ≠ .running := by
  simp [isIdle]

theorem ofKey?_eq_step_iff (k : Key) : Action.ofKey? k = some .step ↔ k.name = "s" := by
  unfold Action.ofKey?
  split <;> simp_all

/-- A key that asks for anything but a step makes no step. -/
theorem accepts_key_of_ne {s : Screen} {k : Key} (h : Action.ofKey? k ≠ some .step) :
    s.accepts (.key k) = false := by
  have hk : k.name ≠ "s" := fun e => h ((ofKey?_eq_step_iff k).mpr e)
  simp [accepts, hk]

/-- The step key makes a step exactly when the screen is idle. -/
theorem accepts_key_of_step {s : Screen} {k : Key} (h : Action.ofKey? k = some .step) :
    s.accepts (.key k) = s.isIdle := by
  simp [accepts, isIdle, (ofKey?_eq_step_iff k).mp h]

theorem change_act (s : Screen) {k : Key} {a : Action} (hk : Action.ofKey? k = some a) :
    s.Change (.key k) (s.act a).screen (s.act a).tick? := by
  cases a with
  | step =>
    have hacc := accepts_key_of_step (s := s) hk
    unfold act
    by_cases hidle : s.isIdle = true
    · simp only [if_pos hidle, step_tick?]
      exact .stepKey (hacc.trans hidle) ((isIdle_iff s).mp hidle).2
    · simp only [if_neg hidle]
      exact .ignore (hacc.trans (Bool.of_not_eq_true hidle)) (fun _ => nofun)
  | run =>
    have hquiet : s.accepts (.key k) = false := accepts_key_of_ne (by rw [hk]; decide)
    unfold act
    by_cases hidle : s.isIdle = true
    · simp only [if_pos hidle]
      exact .runKey hquiet ((isIdle_iff s).mp hidle).2
    · simp only [if_neg hidle]
      exact .ignore hquiet (fun _ => nofun)
  | pause => exact .pauseKey (accepts_key_of_ne (by rw [hk]; decide))
  | quit => exact .ignore (accepts_key_of_ne (by rw [hk]; decide)) (fun _ => nofun)
  | reset => exact .ignore (accepts_key_of_ne (by rw [hk]; decide)) (fun _ => nofun)

theorem change_tick (s : Screen) (runId : Int) :
    s.Change (.tick runId) (s.tick runId).screen (s.tick runId).tick? := by
  unfold tick
  by_cases h : runId = s.runId ∧ s.machine.status = .running
  · obtain ⟨rfl, hrun⟩ := h
    have hacc : s.accepts (.tick s.runId) = true := by simp [accepts, hrun]
    have hchange := Change.tick hacc hrun
    rw [if_pos ⟨rfl, hrun⟩]
    dsimp only
    rw [step_machine]
    by_cases hnext : s.machine.step.machine.status = .running
    · rw [if_pos hnext] at hchange ⊢
      rw [step_runId]
      exact hchange
    · rw [if_neg hnext] at hchange ⊢
      rw [step_tick?]
      exact hchange
  · rw [if_neg h]
    refine .ignore ?_ (fun _ => nofun)
    rw [accepts]
    simpa using h

theorem change_load (s : Screen) (p : Program) :
    s.Change (.load p) (s.load p).screen (s.load p).tick? := by
  unfold load
  cases h : Machine.load? p.source s.settings.tapeSize with
  | error e =>
    simp only [h]
    exact .refuse h
  | ok m =>
    simp only [h]
    exact .load h

/-- **These are all the changes.** -/
theorem change_update (s : Screen) (msg : Message) :
    s.Change msg (s.update msg).screen (s.update msg).tick? := by
  cases msg with
  | key k =>
    unfold update
    dsimp only
    cases hk : Action.ofKey? k with
    | some a => exact s.change_act hk
    | none => exact .ignore (accepts_key_of_ne (by rw [hk]; decide)) (fun _ => nofun)
  | tick runId => exact s.change_tick runId
  | load p => exact s.change_load p
  | other => exact .ignore rfl (fun _ => nofun)

/-! ## Runs -/

/-- A screen that has just been opened is at the start of its program, in its first run, and asks
for no tick. -/
theorem open?_eq_ok {settings : Settings} {r : Reaction} (h : open? settings = .ok r) :
    ∃ (speed : Duration) (m : Machine),
      Machine.load? settings.program.source settings.tapeSize = .ok m ∧
      r.screen = start { settings with speed := speed } m 1 ∧ r.tick? = none := by
  unfold open? at h
  dsimp only at h
  obtain ⟨speed, hspeed⟩ : ∃ speed : Duration,
      (if settings.speed.nanoseconds ≤ 0 then { settings with speed := .tenthOfSecond }
        else settings) = { settings with speed := speed } := by
    split_ifs
    · exact ⟨_, rfl⟩
    · exact ⟨settings.speed, rfl⟩
  rw [hspeed] at h
  cases hm : Machine.load? settings.program.source settings.tapeSize with
  | error e =>
    simp only [hm] at h
    exact absurd h nofun
  | ok m =>
    simp only [hm, Except.ok.injEq] at h
    exact ⟨speed, m, rfl, by rw [← h], by rw [← h]; rfl⟩

/-- What happens to a screen: a message, or another tape size for the loads to come. -/
inductive Event where
  | message (msg : Message)
  | resize (size : Int)

/-- The screen after an event. -/
def after (s : Screen) : Event → Screen
  | .message msg => (s.update msg).screen
  | .resize size => s.setTapeSize size

/-- The screen after a sequence of events. -/
def run (s : Screen) (events : List Event) : Screen :=
  events.foldl after s

/-- What holds of a screen and is kept by every event holds after every run. -/
theorem run_induction {motive : Screen → Prop} {s : Screen} (base : motive s)
    (step : ∀ (s : Screen) (e : Event), motive s → motive (s.after e)) (events : List Event) :
    motive (s.run events) := by
  induction events generalizing s with
  | nil => exact base
  | cons e events ih => exact ih (step s e base)

end Screen

end TapeDeck
