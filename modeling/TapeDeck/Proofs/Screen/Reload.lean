import TapeDeck.Proofs.Screen.Run
import TapeDeck.Screen.View

/-!
# Nothing survives a reload

A load that succeeds leaves a screen like one that has just been opened with the new program, except
that it goes on counting the runs. The count is only ever compared with that of a tick, so it does
not matter where it starts: with `shift` the runs are counted from elsewhere, on the screen, in the
messages that come and in the requests that go out, and this commutes with every reaction
(`Screen.update_shift`) and with every sequence of events (`Screen.run_shift`). A reloaded screen is
a fresh one, shifted (`Screen.load_eq_shift`), and stays so whatever happens next.

What tells the two apart is a tick from before the reload. Its run is not later than the screen's at
that time (`Screen.le_runId_of_mem_asked`), the reload starts a later run, and runs are never
counted down (`Screen.runId_le_run`), so it steps nothing.

**`reload_is_fresh`** puts this together for every screen that can be reached.
-/

namespace TapeDeck

/-! ## Counting the runs from elsewhere -/

/-- The message, with the run of a tick counted `d` higher. -/
def Message.shift (d : Int) : Message → Message
  | tick runId => tick (runId + d)
  | msg => msg

/-- The request, with the run of a tick counted `d` higher. -/
def Request.shift (d : Int) : Request → Request
  | tick runId => tick (runId + d)
  | request => request

/-- The screen, with its run counted `d` higher. -/
def Screen.shift (s : Screen) (d : Int) : Screen := { s with runId := s.runId + d }

/-- The reaction, with the runs of its screen and of its request counted `d` higher. -/
def Reaction.shift (r : Reaction) (d : Int) : Reaction where
  screen := r.screen.shift d
  request := r.request.map (Request.shift d)
  log := r.log

namespace Screen

/-- The event, with the run of a tick counted `d` higher. -/
def Event.shift (d : Int) : Event → Event
  | message msg => message (msg.shift d)
  | resize size => resize size

section Shift

variable (s : Screen) (d : Int)

theorem step_shift : (s.shift d).step = s.step.shift d := by
  have hmachine : (s.shift d).machine = s.machine := rfl
  unfold step
  simp only [record_eq, hmachine]
  cases s.machine.step.fault <;> cases s.machine.step.result.halt <;> rfl

theorem startTimer_shift : (s.shift d).startTimer = s.startTimer.shift d := by
  have hrun : s.runId + d + 1 = s.runId + 1 + d := by omega
  simp only [startTimer, shift, Reaction.shift, Request.shift, Option.map_some, hrun]

theorem act_shift (a : Action) : (s.shift d).act a = (s.act a).shift d := by
  have hidle : (s.shift d).isIdle = s.isIdle := rfl
  cases a with
  | quit => rfl
  | pause => rfl
  | reset => rfl
  | step =>
    unfold act
    simp only [hidle]
    split_ifs
    · exact s.step_shift d
    · rfl
  | run =>
    unfold act
    simp only [hidle]
    split_ifs
    · exact s.startTimer_shift d
    · rfl

/-- A tick is taken for one of the current run here exactly when it is there. -/
theorem tick_shift (runId : Int) : (s.shift d).tick (runId + d) = (s.tick runId).shift d := by
  have hcurrent : runId + d = (s.shift d).runId ↔ runId = s.runId := by
    show runId + d = s.runId + d ↔ runId = s.runId
    omega
  have hmachine : (s.shift d).machine = s.machine := rfl
  unfold tick
  simp only [hcurrent, hmachine, step_shift]
  by_cases h : runId = s.runId ∧ s.machine.status = .running
  · rw [if_pos h, if_pos h]
    by_cases hnext : s.step.screen.machine.status = .running
    · have hnext' : (s.step.shift d).screen.machine.status = .running := hnext
      rw [if_pos hnext, if_pos hnext']
      rfl
    · have hnext' : ¬ (s.step.shift d).screen.machine.status = .running := hnext
      rw [if_neg hnext, if_neg hnext']
  · rw [if_neg h, if_neg h]
    rfl

theorem load_shift (p : Program) : (s.shift d).load p = (s.load p).shift d := by
  have hrun : s.runId + d + 1 = s.runId + 1 + d := by omega
  have hsettings : (s.shift d).settings = s.settings := rfl
  unfold load
  simp only [hsettings]
  cases Machine.load? p.source s.settings.tapeSize with
  | error e => rfl
  | ok m => simp only [shift, start, Reaction.shift, Option.map_none, hrun]

/-- **No reaction depends on where the runs are counted from.** -/
theorem update_shift (msg : Message) :
    (s.shift d).update (msg.shift d) = (s.update msg).shift d := by
  cases msg with
  | key k =>
    simp only [update, Message.shift]
    cases Action.ofKey? k with
    | none => rfl
    | some a => exact s.act_shift d a
  | tick runId => exact s.tick_shift d runId
  | load p => exact s.load_shift d p
  | other => rfl

/-- **No sequence of events does either.** -/
theorem run_shift (events : List Event) :
    (s.shift d).run (events.map (Event.shift d)) = (s.run events).shift d := by
  induction events generalizing s with
  | nil => rfl
  | cons e events ih =>
    have hafter : (s.shift d).after (e.shift d) = (s.after e).shift d := by
      cases e with
      | message msg => exact congrArg Reaction.screen (s.update_shift d msg)
      | resize size => rfl
    show ((s.shift d).after (e.shift d)).run (events.map (Event.shift d)) = _
    rw [hafter]
    exact ih (s.after e)

/-! ## What is shown does not tell -/

theorem codePane_shift : (s.shift d).codePane = s.codePane := rfl

theorem outputPane_shift : (s.shift d).outputPane = s.outputPane := rfl

theorem view_shift : (s.shift d).view = s.view := by
  have hheader : (s.shift d).header = s.header := rfl
  have hupper : (s.shift d).upperArea = s.upperArea := rfl
  have hlower : (s.shift d).lowerArea = s.lowerArea := rfl
  unfold view
  rw [hheader, hupper, hlower]

end Shift

/-! ## Opening and reloading -/

/-- A screen that was opened has a delay between its ticks. -/
theorem speed_pos_of_open {settings : Settings} {r : Reaction} (h : open? settings = .ok r) :
    0 < r.screen.settings.speed.nanoseconds := by
  unfold open? at h
  dsimp only at h
  split at h
  · exact absurd h nofun
  · rw [← Except.ok.inj h]
    show 0 < (if settings.speed.nanoseconds ≤ 0 then { settings with speed := .tenthOfSecond }
      else settings).speed.nanoseconds
    split_ifs with hspeed
    · show 0 < Duration.tenthOfSecond.nanoseconds
      decide
    · omega

/-- No message changes the delay between the ticks. -/
theorem speed_change {s s' : Screen} {msg : Message} {asked : Option Int}
    (hc : s.Change msg s' asked) : s'.settings.speed = s.settings.speed := by
  cases hc with
  | stepKey => rw [s.step_screen]
  | tick => rw [s.step_screen]
  | ignore => rfl
  | runKey => rfl
  | pauseKey => rfl
  | load => rfl
  | refuse => rfl

theorem speed_pos_run {settings : Settings} {r : Reaction} (opened : open? settings = .ok r)
    (events : List Event) : 0 < (r.screen.run events).settings.speed.nanoseconds := by
  refine run_induction (motive := fun s => 0 < s.settings.speed.nanoseconds)
    (speed_pos_of_open opened) (fun s e h => ?_) events
  cases e with
  | message msg =>
    show 0 < (s.update msg).screen.settings.speed.nanoseconds
    rw [speed_change (s.change_update msg)]
    exact h
  | resize size => exact h

/-- **A load that succeeds opens a screen anew**, but for the count of the runs. -/
theorem load_eq_shift {s : Screen} (hspeed : 0 < s.settings.speed.nanoseconds)
    (hsize : 0 < s.settings.tapeSize) (p : Program) :
    ∃ fresh, open? { s.settings with program := p } = .ok fresh ∧
      s.update (.load p) = fresh.shift s.runId := by
  obtain ⟨m, hm⟩ := Machine.load?_eq_ok_of_pos p.source hsize
  have hopen : open? { s.settings with program := p } =
      .ok { screen := start { s.settings with program := p } m 1, log := [Log.loaded p] } := by
    unfold open?
    simp only [if_neg (show ¬ s.settings.speed.nanoseconds ≤ 0 by omega), hm]
  refine ⟨_, hopen, ?_⟩
  show s.load p = _
  unfold load
  simp only [hm, Reaction.shift, shift, start, Option.map_none, Int.add_comm 1]

/-! ## Ticks from before -/

/-- The runs of the ticks that a screen asks for in a sequence of events. -/
def asked (s : Screen) : List Event → List Int
  | [] => []
  | .message msg :: events =>
    (s.update msg).tick?.toList ++ (s.update msg).screen.asked events
  | .resize size :: events => (s.setTapeSize size).asked events

section Runs

variable {s s' : Screen} {msg : Message} {asked : Option Int}

/-- Runs are not counted down. -/
theorem runId_le_change (hc : s.Change msg s' asked) : s.runId ≤ s'.runId := by
  cases hc with
  | stepKey => exact Int.le_of_eq s.step_runId.symm
  | tick => exact Int.le_of_eq s.step_runId.symm
  | ignore => exact Int.le_refl _
  | pauseKey => exact Int.le_refl _
  | refuse => exact Int.le_refl _
  | runKey =>
    show s.runId ≤ s.runId + 1
    omega
  | load =>
    show s.runId ≤ s.runId + 1
    omega

/-- The tick that is asked for is one of the run that the screen is in then. -/
theorem eq_runId_of_asked {runId : Int} (hc : s.Change msg s' asked) (h : runId ∈ asked) :
    runId = s'.runId := by
  cases hc with
  | runKey => exact (Option.some.inj h).symm
  | tick =>
    rw [s.step_runId]
    split_ifs at h
    · exact (Option.some.inj h).symm
    · exact absurd h nofun
  | ignore => exact absurd h nofun
  | stepKey => exact absurd h nofun
  | pauseKey => exact absurd h nofun
  | load => exact absurd h nofun
  | refuse => exact absurd h nofun

end Runs

theorem runId_le_run (s : Screen) (events : List Event) : s.runId ≤ (s.run events).runId := by
  refine run_induction (motive := fun s' => s.runId ≤ s'.runId) (Int.le_refl _)
    (fun s' e h => ?_) events
  cases e with
  | message msg => exact Int.le_trans h (runId_le_change (s'.change_update msg))
  | resize size => exact h

/-- No tick that was asked for is of a later run than the screen. -/
theorem le_runId_of_mem_asked {s : Screen} {runId : Int} {events : List Event}
    (h : runId ∈ s.asked events) : runId ≤ (s.run events).runId := by
  induction events generalizing s with
  | nil => exact absurd h List.not_mem_nil
  | cons e events ih =>
    cases e with
    | resize size => exact ih h
    | message msg =>
      rcases List.mem_append.mp h with hnow | hlater
      · rw [eq_runId_of_asked (s.change_update msg) (Option.mem_toList.mp hnow)]
        exact runId_le_run (s.update msg).screen events
      · exact ih hlater

/-- A tick of another run than the screen's changes nothing and asks for nothing. -/
theorem update_tick_of_ne {s : Screen} {runId : Int} (h : runId ≠ s.runId) :
    s.update (.tick runId) = { screen := s } :=
  if_neg fun hcurrent => h hcurrent.1

end Screen

/-- **Nothing survives a reload.** Take any screen that can be reached from one that was opened, and
load a program on it with a tape size that is positive. The reaction is that of opening a screen
with the same settings and the new program, but for the count of the runs. Whatever happens next to
the two, with the ticks counted accordingly, they stay equal but for that count: machine, partners,
history, end, error, track and settings, the code pane, the output pane and the whole view, and to
the next message they react with the same request, again but for the count, and the same log. And no
tick that was asked for before the reload ever does anything after it. -/
theorem reload_is_fresh {settings : Settings} {r : Reaction}
    (opened : Screen.open? settings = .ok r) (events : List Screen.Event) (p : Program)
    (positive : 0 < (r.screen.run events).settings.tapeSize) :
    let s := r.screen.run events
    ∃ fresh, Screen.open? { s.settings with program := p } = .ok fresh ∧
      s.update (.load p) = fresh.shift s.runId ∧
      (∀ later : List Screen.Event,
        let a := (s.update (.load p)).screen.run (later.map (Screen.Event.shift s.runId))
        let b := fresh.screen.run later
        a.machine = b.machine ∧ a.partners = b.partners ∧ a.history = b.history ∧
        a.ended = b.ended ∧ a.error = b.error ∧ a.track = b.track ∧ a.settings = b.settings ∧
        a.runId = b.runId + s.runId ∧
        a.codePane = b.codePane ∧ a.outputPane = b.outputPane ∧ a.view = b.view ∧
        ∀ msg : Message,
          (a.update (msg.shift s.runId)).request =
            (b.update msg).request.map (Request.shift s.runId) ∧
          (a.update (msg.shift s.runId)).log = (b.update msg).log) ∧
      ∀ runId ∈ r.screen.asked events, ∀ later : List Screen.Event,
        let a := (s.update (.load p)).screen.run later
        a.accepts (.tick runId) = false ∧ a.update (.tick runId) = { screen := a } := by
  intro s
  obtain ⟨fresh, hopen, hload⟩ :=
    Screen.load_eq_shift (Screen.speed_pos_run opened events) positive p
  refine ⟨fresh, hopen, hload, fun later => ?_, fun runId hasked later => ?_⟩
  · have hrun : (s.update (.load p)).screen.run (later.map (Screen.Event.shift s.runId)) =
        (fresh.screen.run later).shift s.runId := by
      rw [hload]
      exact fresh.screen.run_shift s.runId later
    intro a b
    rw [show a = b.shift s.runId from hrun]
    refine ⟨rfl, rfl, rfl, rfl, rfl, rfl, rfl, rfl, b.codePane_shift _, b.outputPane_shift _,
      b.view_shift _, fun msg => ?_⟩
    rw [b.update_shift s.runId msg]
    exact ⟨rfl, rfl⟩
  · intro a
    -- the tick is of a run that was over when the program was loaded
    have hne : runId ≠ a.runId := by
      have hbefore : runId ≤ s.runId := Screen.le_runId_of_mem_asked hasked
      have hfirst : fresh.screen.runId = 1 := by
        obtain ⟨speed, m, -, hscreen, -⟩ := Screen.open?_eq_ok hopen
        rw [hscreen]
        rfl
      have hstart : (s.update (.load p)).screen.runId = fresh.screen.runId + s.runId := by
        rw [hload]
        rfl
      have hlater : (s.update (.load p)).screen.runId ≤ a.runId :=
        Screen.runId_le_run _ later
      omega
    refine ⟨?_, Screen.update_tick_of_ne hne⟩
    simp [Screen.accepts, hne]

/-- A reload while the timer drives the machine, with a tick of run 2 under way: the screen is in
run 3 and shows the new program, and after it has been handed to the timer again the old tick still
does nothing. -/
theorem reload_is_fresh_running :
    let settings : Settings := { program := ⟨1, [], [0x2B]⟩, tapeSize := 1 }
    let events : List Screen.Event := [.message (.key { text := "r" })]
    let p : Program := ⟨2, [], [0x2D, 0x2E]⟩
    ∃ r fresh, Screen.open? settings = .ok r ∧
      Screen.open? { settings with program := p } = .ok fresh ∧
      r.screen.asked events = [2] ∧
      ((r.screen.run events).update (.load p)).screen.runId = fresh.screen.runId + 2 ∧
      ((r.screen.run events).update (.load p)).screen.view = fresh.screen.view ∧
      let a := ((r.screen.run events).update (.load p)).screen.run events
      a.machine.status = .running ∧ a.update (.tick 2) = { screen := a } := by
  intro settings events p
  have hr : Screen.open? settings =
      .ok ⟨Screen.start settings (Machine.start [0x2B] (Tape.blank 0)) 1, none,
        [Log.loaded settings.program]⟩ := rfl
  obtain ⟨fresh, hfresh, -, hlater, hstale⟩ := @reload_is_fresh settings _ hr events p (by decide)
  obtain ⟨-, -, -, -, -, -, -, hrun, -, -, hview, -⟩ := hlater []
  refine ⟨_, fresh, hr, hfresh, by decide, hrun, hview, by decide, ?_⟩
  exact (hstale 2 (by decide) events).2

end TapeDeck
