import TapeDeck.Proofs.Screen.Run
import TapeDeck.Screen.Pane

/-!
# The screen follows the plain machine

A screen keeps five things about one run: the machine, the history, the track, whether the program
has ended, and the error. All of them are what `n` plain steps of a freshly loaded machine give,
where `n` counts the steps that the screen has accepted since the last load that succeeded.

`Tally` is the count. It is kept beside the screen and reads only what the screen shows and which
messages come (`Tally.after`); the screen does not know of it. `Lockstep` is the invariant that ties
the two, and every event keeps it (`Lockstep.after`): an accepted step moves both sides by one, and
handing the machine over or taking it back moves neither. **`screen_refines_machine`** is the result
for every sequence of events.
-/

namespace TapeDeck

/-- The line of the history for a step, if it executed anything. -/
def StepReport.line? (r : StepReport) : Option String :=
  r.executed?.map Executed.text

/-- What the run on a screen was loaded with, how many steps have been accepted since, and whether
a load has been refused since. -/
structure Tally where
  source : Bytes
  tapeSize : Int
  steps : Nat
  refused : Bool

namespace Tally

/-- The tally of a screen that has just been opened. -/
def opened (settings : Settings) : Tally :=
  ⟨settings.program.source, settings.tapeSize, 0, false⟩

/-- The tally after a message to the screen `s`. -/
def count (g : Tally) (s : Screen) (msg : Message) : Tally :=
  match msg with
  | .load p =>
    if 0 < s.settings.tapeSize then ⟨p.source, s.settings.tapeSize, 0, false⟩
    else { g with refused := true }
  | msg => if s.accepts msg then { g with steps := g.steps + 1 } else g

/-- The tally after an event at the screen `s`. -/
def after (g : Tally) (s : Screen) : Screen.Event → Tally
  | .message msg => g.count s msg
  | .resize _ => g

/-- The tally after a sequence of events that starts at the screen `s`. -/
def run (g : Tally) (s : Screen) : List Screen.Event → Tally
  | [] => g
  | e :: events => (g.after s e).run (s.after e) events

theorem count_of_accepts {g : Tally} {s : Screen} {msg : Message} (h : s.accepts msg = true) :
    g.count s msg = { g with steps := g.steps + 1 } := by
  cases msg with
  | load p => exact absurd h Bool.false_ne_true
  | key k => exact if_pos h
  | tick runId => exact if_pos h
  | other => exact absurd h Bool.false_ne_true

theorem count_of_quiet {g : Tally} {s : Screen} {msg : Message} (h : s.accepts msg = false)
    (no_load : ∀ p, msg ≠ .load p) : g.count s msg = g := by
  have h' : ¬ s.accepts msg = true := by rw [h]; exact Bool.false_ne_true
  cases msg with
  | load p => exact absurd rfl (no_load p)
  | key k => exact if_neg h'
  | tick runId => exact if_neg h'
  | other => rfl

theorem count_of_refused {g : Tally} {s : Screen} {p : Program} {e : InvalidTapeSize}
    (h : Machine.load? p.source s.settings.tapeSize = .error e) :
    g.count s (.load p) = { g with refused := true } := by
  have hsize : ¬ 0 < s.settings.tapeSize := by
    intro hpos
    obtain ⟨m, hm⟩ := Machine.load?_eq_ok_of_pos p.source hpos
    rw [h] at hm
    cases hm
  exact if_neg hsize

end Tally

/-- **Lockstep**: the screen shows what `g.steps` plain steps from the machine `m` give. -/
structure Lockstep (m : Machine) (s : Screen) (g : Tally) : Prop where
  loaded : Machine.load? g.source g.tapeSize = .ok m
  machine : s.machine.Alike (m.stepN g.steps)
  history : s.history.toList = (m.reports g.steps).filterMap StepReport.executed?
  track : s.settings.recording = true →
    s.track = Track.empty.cueAll ((m.reports g.steps).filterMap StepReport.command)
  ended : s.ended = s.machine.isHalted
  error : g.refused = false → s.error = (m.foundFault g.steps).map ScreenError.unbalanced

namespace Lockstep

variable {m : Machine} {s : Screen} {g : Tally}

theorem live (h : Lockstep m s g) : m.isHalted = false :=
  Machine.isHalted_of_load? h.loaded

/-- A program that has just been loaded is at step zero. -/
theorem start {settings : Settings} {source : Bytes} {size runId : Int}
    (hm : Machine.load? source size = .ok m) :
    Lockstep m (Screen.start settings m runId) ⟨source, size, 0, false⟩ where
  loaded := hm
  machine := .refl m
  history := rfl
  track _ := rfl
  ended := by
    obtain ⟨n, -, rfl⟩ := Machine.load?_eq_ok_iff.mp hm
    rfl
  error _ := rfl

/-- Handing the machine over or taking it back, in whatever run, is no step. -/
theorem drive (h : Lockstep m s g) {m' : Machine} (hm : s.machine.Alike m') (runId : Int) :
    Lockstep m { s with machine := m', runId := runId } g where
  loaded := h.loaded
  machine := hm.symm.trans h.machine
  history := h.history
  track := h.track
  ended := h.ended.trans hm.isHalted_eq
  error := h.error

/-- **A step of the screen is a step of the plain machine.** -/
theorem step (h : Lockstep m s g) :
    Lockstep m s.step.screen { g with steps := g.steps + 1 } := by
  -- the screen's machine reports and finds what the plain one does
  obtain ⟨hresult, hfault, hmachine⟩ := h.machine.step
  rw [s.step_screen]
  refine ⟨h.loaded, ?_, ?_, fun hrec => ?_, ?_, fun hrefused => ?_⟩
  · rw [m.stepN_succ_last g.steps]
    exact hmachine
  · rw [Machine.filterMap_reports_succ, ← h.history, ← hresult]
    exact Array.toList_appendList
  · rw [Machine.filterMap_reports_succ, Track.cueAll_append, ← h.track hrec, ← hresult]
    exact if_pos hrec
  · show (s.ended || s.machine.step.result.halt.isSome) = s.machine.step.machine.isHalted
    rw [Machine.step_result_halt, h.ended]
    cases hhalt : s.machine.isHalted with
    | true => rw [Machine.step_of_halted hhalt]; exact hhalt.symm
    | false => rfl
  · rw [Machine.foundFault_succ h.live g.steps, ← hfault, Option.map_or, ← h.error hrefused]

/-- A message keeps the lockstep, though a load changes the machine it is with. -/
theorem change {s' : Screen} {msg : Message} {asked : Option Int} (h : Lockstep m s g)
    (hc : s.Change msg s' asked) : ∃ m', Lockstep m' s' (g.count s msg) := by
  cases hc with
  | ignore quiet no_load =>
    rw [Tally.count_of_quiet quiet no_load]
    exact ⟨m, h⟩
  | stepKey accepted =>
    rw [Tally.count_of_accepts accepted]
    exact ⟨m, h.step⟩
  | runKey quiet =>
    rw [Tally.count_of_quiet quiet fun _ => nofun]
    exact ⟨m, h.drive (.run s.machine) (s.runId + 1)⟩
  | pauseKey quiet =>
    rw [Tally.count_of_quiet quiet fun _ => nofun]
    exact ⟨m, h.drive (.pause s.machine) s.runId⟩
  | tick accepted =>
    rw [Tally.count_of_accepts accepted]
    exact ⟨m, h.step⟩
  | @load p m' loaded =>
    have hpos : 0 < s.settings.tapeSize := by
      obtain ⟨n, hn, -⟩ := Machine.load?_eq_ok_iff.mp loaded
      omega
    rw [Tally.count, if_pos hpos]
    exact ⟨m', .start loaded⟩
  | refuse refused =>
    rw [Tally.count_of_refused refused]
    exact ⟨m, h.loaded, h.machine, h.history, h.track, h.ended, nofun⟩

/-- **Every run keeps the lockstep.** -/
theorem run (h : Lockstep m s g) (events : List Screen.Event) :
    ∃ m', Lockstep m' (s.run events) (g.run s events) := by
  induction events generalizing m s g with
  | nil => exact ⟨m, h⟩
  | cons e events ih =>
    obtain ⟨m', h'⟩ : ∃ m', Lockstep m' (s.after e) (g.after s e) := by
      cases e with
      | message msg => exact h.change (s.change_update msg)
      | resize size => exact ⟨m, h.loaded, h.machine, h.history, h.track, h.ended, h.error⟩
    exact ih h'

/-- Every screen that can be reached is in lockstep with some machine. -/
theorem of_open? {settings : Settings} {r : Reaction} (opened : Screen.open? settings = .ok r)
    (events : List Screen.Event) :
    ∃ m, Lockstep m (r.screen.run events) ((Tally.opened settings).run r.screen events) := by
  obtain ⟨speed, m, hm, hscreen, -⟩ := Screen.open?_eq_ok opened
  have hinit : Lockstep m r.screen (Tally.opened settings) := by
    rw [hscreen]
    exact .start hm
  exact hinit.run events

/-- Without a refused load, the screen shows an error exactly when the program ended unbalanced. -/
theorem error_ne_none_iff (h : Lockstep m s g) (hrefused : g.refused = false) :
    s.error ≠ none ↔ s.machine.halt? = some .unbalanced := by
  rw [h.error hrefused, h.machine.halt_eq, ← Machine.isSome_findSome?_fault_iff h.live g.steps,
    Machine.foundFault]
  cases (m.trace g.steps).findSome? Stepped.fault <;> simp

end Lockstep

/-- **The screen refines the plain machine.** After any events on a screen that was opened, let the
tally count the steps accepted since the last load that succeeded. The screen's machine is the one
that as many plain steps of a fresh machine give, but for who drives it; the history, the track, the
end and the error are those of these steps. -/
theorem screen_refines_machine {settings : Settings} {r : Reaction}
    (opened : Screen.open? settings = .ok r) (events : List Screen.Event) :
    let s := r.screen.run events
    let g := (Tally.opened settings).run r.screen events
    ∃ m, Machine.load? g.source g.tapeSize = .ok m ∧
      s.machine.Alike (m.stepN g.steps) ∧
      s.history.toList = (m.reports g.steps).filterMap StepReport.executed? ∧
      s.history.toList.map Executed.text = (m.reports g.steps).filterMap StepReport.line? ∧
      (s.settings.recording = true →
        s.track = Track.empty.cueAll ((m.reports g.steps).filterMap StepReport.command)) ∧
      (s.ended = true ↔ s.machine.isHalted = true) ∧
      (s.machine.isHalted = true ↔ s.machine.halt? ≠ none) ∧
      (g.refused = false →
        (s.error ≠ none ↔ s.machine.halt? = some .unbalanced) ∧
        s.error = ((m.trace g.steps).findSome? Stepped.fault).map ScreenError.unbalanced) := by
  obtain ⟨speed, m₀, hm₀, hscreen, -⟩ := Screen.open?_eq_ok opened
  have hinit : Lockstep m₀ r.screen (Tally.opened settings) := by
    rw [hscreen]
    exact .start hm₀
  obtain ⟨m, h⟩ := hinit.run events
  refine ⟨m, h.loaded, h.machine, h.history, ?_, h.track, ?_, ?_, fun hrefused => ⟨?_, ?_⟩⟩
  · rw [h.history, List.map_filterMap]
    rfl
  · rw [h.ended]
  · rw [Machine.isHalted, Machine.halt?, Status.isHalted, Option.isSome_iff_ne_none]
  · exact h.error_ne_none_iff hrefused
  · exact h.error hrefused

/-- A run by the timer, taken back after one tick and stepped by hand on to a bracket that has no
partner: two steps are accepted, and the screen shows the error of the second. -/
theorem screen_refines_machine_unbalanced :
    let settings : Settings := { program := ⟨1, [], [0x2B, 0x5D]⟩, tapeSize := 1 }
    let events : List Screen.Event :=
      [.message (.key { text := "r" }), .message (.tick 2), .message (.key { text := "p" }),
        .message (.tick 2), .message (.key { text := "s" })]
    ∃ r, Screen.open? settings = .ok r ∧
      ((Tally.opened settings).run r.screen events).steps = 2 ∧
      (r.screen.run events).ended = true ∧ (r.screen.run events).error ≠ none := by
  intro settings events
  refine ⟨_, rfl, by decide, ?_⟩
  obtain ⟨m, -, -, -, -, -, hended, -, herror⟩ := @screen_refines_machine settings _ rfl events
  exact ⟨hended.mpr (by decide), (herror (by decide)).1.mpr (by decide)⟩

end TapeDeck
