import TapeDeck.Proofs.Screen.Lockstep
import TapeDeck.Screen.View

/-!
# Loads that are refused

A load is refused when the tape size that is set at that moment is not positive. The run goes on
then as if nothing had been asked for, and the screen shows the error. But the program that was
asked for has become the configured one, so the header names it and a reset asks for it, while the
machine still runs the one before. The two questions have different answers from then on:

* what the machine runs is the program of the last load that succeeded (`Lockstep.code_eq`);
* what is configured is the program of the last load at all (`Screen.program_run`).

They agree as long as no load has been refused since one succeeded (`Screen.Configured`).
**`refused_load_keeps_run`** says this for every screen that can be reached, and what a refused load
does to it: it leaves all but the error alone exactly when it asked for the configured program, as a
reset does. `refused_load_replaces_program` is a load that did not.
-/

namespace TapeDeck

/-- What is true of a screen with its tally and kept by every event is true after every run. -/
theorem Tally.run_induction {motive : Screen → Tally → Prop} {s : Screen} {g : Tally}
    (base : motive s g)
    (kept : ∀ (s : Screen) (g : Tally) (e : Screen.Event),
      motive s g → motive (s.after e) (g.after s e)) (events : List Screen.Event) :
    motive (s.run events) (g.run s events) := by
  induction events generalizing s g with
  | nil => exact base
  | cons e events ih => exact ih (kept s g e base)

/-- The machine runs the program of the last load that succeeded. -/
theorem Lockstep.code_eq {m : Machine} {s : Screen} {g : Tally} (h : Lockstep m s g) :
    s.machine.code = g.source.toArray := by
  rw [h.machine.code_eq, m.code_stepN, Machine.code_of_load? h.loaded]

namespace Screen

/-! ## The configured program -/

/-- The program that is asked for last in a sequence of events, or `p` if none is. -/
def requested (p : Program) : List Event → Program
  | [] => p
  | .message (.load q) :: events => requested q events
  | _ :: events => requested p events

/-- The program that a message leaves configured. -/
def configures (p : Program) : Message → Program
  | .load q => q
  | _ => p

theorem requested_message (p : Program) (msg : Message) (events : List Event) :
    requested p (.message msg :: events) = requested (configures p msg) events := by
  cases msg <;> rfl

theorem program_change {s s' : Screen} {msg : Message} {asked : Option Int}
    (hc : s.Change msg s' asked) :
    s'.settings.program = configures s.settings.program msg := by
  cases hc with
  | @ignore msg _ no_load =>
    cases msg with
    | load p => exact absurd rfl (no_load p)
    | key k => rfl
    | tick runId => rfl
    | other => rfl
  | stepKey => rw [s.step_screen]; rfl
  | tick => rw [s.step_screen]; rfl
  | runKey => rfl
  | pauseKey => rfl
  | load => rfl
  | refuse => rfl

/-- **The configured program is the one that was asked for last**, loaded or not. -/
theorem program_run (s : Screen) (events : List Event) :
    (s.run events).settings.program = requested s.settings.program events := by
  induction events generalizing s with
  | nil => rfl
  | cons e events ih =>
    cases e with
    | message msg =>
      rw [requested_message, ← program_change (s.change_update msg)]
      exact ih (s.update msg).screen
    | resize size => exact ih (s.setTapeSize size)

/-! ## When it is the program that runs -/

/-- If no load has been refused since one succeeded, the machine runs the configured program. -/
def Configured (s : Screen) (g : Tally) : Prop :=
  g.refused = false → s.machine.code = s.settings.program.source.toArray

theorem Configured.change {s s' : Screen} {g : Tally} {msg : Message} {asked : Option Int}
    (h : s.Configured g) (hc : s.Change msg s' asked) : s'.Configured (g.count s msg) := by
  have hstep : s.step.screen.Configured { g with steps := g.steps + 1 } := by
    intro hrefused
    rw [s.step_screen]
    exact s.machine.step_code.trans (h hrefused)
  cases hc with
  | ignore quiet no_load =>
    rw [Tally.count_of_quiet quiet no_load]
    exact h
  | stepKey accepted =>
    rw [Tally.count_of_accepts accepted]
    exact hstep
  | tick accepted =>
    rw [Tally.count_of_accepts accepted]
    exact hstep
  | runKey quiet =>
    rw [Tally.count_of_quiet quiet fun _ hload => Message.noConfusion hload]
    exact h
  | pauseKey quiet =>
    rw [Tally.count_of_quiet quiet fun _ hload => Message.noConfusion hload]
    exact h
  | load loaded => exact fun _ => Machine.code_of_load? loaded
  | refuse refused =>
    rw [Tally.count_of_refused refused]
    exact fun hrefused => absurd hrefused.symm Bool.false_ne_true

theorem configured_run {settings : Settings} {r : Reaction} (opened : open? settings = .ok r)
    (events : List Event) :
    (r.screen.run events).Configured ((Tally.opened settings).run r.screen events) := by
  obtain ⟨speed, m, hm, hscreen, -⟩ := open?_eq_ok opened
  refine Tally.run_induction ?_ (fun s g e h => ?_) events
  · rw [hscreen]
    exact fun _ => Machine.code_of_load? hm
  · cases e with
    | message msg => exact h.change (s.change_update msg)
    | resize size => exact h

/-! ## The refused load itself -/

/-- The screen with the error of the tape size that is set. -/
def refusal (s : Screen) : Screen :=
  { s with error := some (.tapeSize ⟨s.settings.tapeSize⟩) }

/-- The screen with another program configured. -/
def configure (s : Screen) (p : Program) : Screen :=
  { s with settings := { s.settings with program := p } }

theorem update_load_of_refused {s : Screen} (hsize : s.settings.tapeSize ≤ 0) (p : Program) :
    s.update (.load p) = { screen := s.refusal.configure p } := by
  have hload : Machine.load? p.source s.settings.tapeSize = .error ⟨s.settings.tapeSize⟩ :=
    Machine.load?_eq_error p.source hsize
  show s.load p = _
  unfold load
  simp only [hload]
  rfl

theorem configure_eq_self_iff {s : Screen} {p : Program} :
    s.configure p = s ↔ p = s.settings.program := by
  constructor
  · intro h
    exact congrArg (fun s : Screen => s.settings.program) h
  · rintro rfl
    rfl

end Screen

/-- **What a refused load does.** On every screen that can be reached the machine runs the program
of the last load that succeeded, the configured program is that of the last load at all, and the two
agree if no load has been refused since. A load is refused when the tape size that is set is not
positive: it asks for nothing and logs nothing, it shows the error and configures the program, and
it leaves machine, partners, history, end, run, track and all other settings as they were. So
nothing but the error changes exactly when the program was the configured one. A reset then asks for
the program that was refused. -/
theorem refused_load_keeps_run {settings : Settings} {r : Reaction}
    (opened : Screen.open? settings = .ok r) (events : List Screen.Event) :
    let s := r.screen.run events
    let g := (Tally.opened settings).run r.screen events
    s.machine.code = g.source.toArray ∧
      s.settings.program = Screen.requested settings.program events ∧
      (g.refused = false → s.machine.code = s.settings.program.source.toArray) ∧
      (s.settings.tapeSize ≤ 0 → ∀ p : Program,
        s.update (.load p) = { screen := s.refusal.configure p } ∧
        ((s.update (.load p)).screen = s.refusal ↔ p = s.settings.program) ∧
        ∀ k : Key, Action.ofKey? k = some .reset →
          ((s.update (.load p)).screen.update (.key k)).request = some (.load p)) := by
  intro s g
  obtain ⟨speed, m₀, hm₀, hscreen, -⟩ := Screen.open?_eq_ok opened
  have hinit : Lockstep m₀ r.screen (Tally.opened settings) := by
    rw [hscreen]
    exact .start hm₀
  obtain ⟨m, hlockstep⟩ := hinit.run events
  have hprogram : r.screen.settings.program = settings.program := by
    rw [hscreen]
    rfl
  refine ⟨hlockstep.code_eq, ?_, Screen.configured_run opened events, fun hsize p => ?_⟩
  · rw [← hprogram]
    exact r.screen.program_run events
  · rw [Screen.update_load_of_refused hsize p]
    refine ⟨rfl, s.refusal.configure_eq_self_iff, fun k hk => ?_⟩
    simp only [Screen.update, hk]
    rfl

/-- A reset that is refused, on a program that has made one step: only the error is new. -/
theorem refused_load_keeps_run_reset :
    let settings : Settings := { program := ⟨1, [0x61], [0x2B, 0x2E]⟩, tapeSize := 3 }
    let events : List Screen.Event := [.message (.key { text := "s" }), .resize 0]
    ∃ r, Screen.open? settings = .ok r ∧ (r.screen.run events).settings.tapeSize ≤ 0 ∧
      ((r.screen.run events).update (.load settings.program)).screen =
        (r.screen.run events).refusal ∧
      (r.screen.run events).machine.code = #[0x2B, 0x2E] := by
  intro settings events
  refine ⟨_, rfl, by decide, ?_⟩
  obtain ⟨hcode, -, -, hrefused⟩ := @refused_load_keeps_run settings _ rfl events
  exact ⟨(hrefused (by decide) settings.program).2.1.mpr rfl, hcode.trans rfl⟩

/-- Another program is refused, and yet it is configured: the header names it and a reset asks for
it, while the machine runs the one before. -/
theorem refused_load_replaces_program :
    let settings : Settings := { program := ⟨1, [0x61], [0x2B, 0x2E]⟩, tapeSize := 3 }
    let p : Program := ⟨2, [0x62], [0x2B, 0x2B]⟩
    ∃ r, Screen.open? settings = .ok r ∧
      let s := r.screen.setTapeSize 0
      let s' := (s.update (.load p)).screen
      s'.settings.program ≠ s.settings.program ∧ s' ≠ s.refusal ∧
      s'.machine.code = s.machine.code ∧ s'.machine.code ≠ s'.settings.program.source.toArray ∧
      s'.header ≠ s.header ∧
      (s'.update (.key { text := "x" })).request = some (.load p) := by
  intro settings p
  have hne : p ≠ settings.program := by decide
  refine ⟨_, rfl, hne, fun h => ?_, rfl, by decide, by decide +kernel, by decide⟩
  exact hne (congrArg (fun s : Screen => s.settings.program) h)

end TapeDeck
