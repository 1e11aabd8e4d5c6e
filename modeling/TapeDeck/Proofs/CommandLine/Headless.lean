import TapeDeck.CommandLine.Headless
import TapeDeck.Proofs.Machine.Comments
import TapeDeck.Proofs.Machine.Drivers
import TapeDeck.Proofs.Machine.Halt

/-!
# What a run without a screen leaves behind

A run can be traced, recorded, animated, and its tape dumped at the end. None of this has an
influence on the run. Take a run that is cancelled before its first step or not at all: it is over
after the first number of steps at which the machine is halted, or after none at all if it was
cancelled (`RunOver`). That number depends on the program and the tape size alone. So does all that
the run leaves behind, up to what was asked to be shown (`Headless.performance`):

* the trace, if it is wanted, has the line of every step that executed something, and the track the
  tone of each (`Headless.watched_observe`);
* the two drivers end with machines that have the same output, tape and position, and the same
  status if the run was not cancelled (`Headless.verdict_final`), so what is printed and logged at
  the end is the same;
* the error is the cancellation or the fault that the steps found (`Machine.endError_of_first`).

**`Headless.run_returns_iff`**: a run has an answer, given enough rounds, exactly when it is over
after some number of steps, and the answer is the performance of the first such number.
-/

namespace TapeDeck

/-- The line of a trace for a step, if it executed anything. -/
def StepReport.traceLine? (r : StepReport) : Option String :=
  r.command.map (traceLine r)

/-- A run is over after `n` steps: the machine is halted, or the run was cancelled before its first
step. -/
def RunOver (cancelled : Bool) (m : Machine) (n : Nat) : Prop :=
  (m.stepN n).isHalted = true ∨ n = 0 ∧ cancelled = true

namespace Machine

/-- The error of a run that is over after `n` steps: the cancellation, or the fault that was
found. -/
def runError (m : Machine) (cancelled : Bool) (n : Nat) : Option RunError :=
  if cancelled then some .cancelled else (m.foundFault n).map .unbalanced

variable {m : Machine} {cancelled : Bool} {n : Nat}

/-- A run that is over without having been cancelled has made a step, and the last one halted the
machine. -/
theorem exists_last_step (hl : m.isHalted = false) (hn : FirstFrom (RunOver cancelled m) 0 n)
    (hc : cancelled = false) :
    ∃ k, n = k + 1 ∧ (m.stepN k).isHalted = false ∧ (m.stepN n).isHalted = true := by
  have hhalt : (m.stepN n).isHalted = true := by
    refine hn.1.2.resolve_right fun h => ?_
    rw [hc] at h
    exact absurd h.2 Bool.false_ne_true
  cases n with
  | zero => exact absurd (hl.symm.trans hhalt) Bool.false_ne_true
  | succ k =>
    refine ⟨k, rfl, ?_, hhalt⟩
    have hbefore := hn.not_ended (Nat.zero_le k) (Nat.lt_succ_self k)
    exact Bool.of_not_eq_true fun h => hbefore (.inl h)

/-- The error that a driver reports is that of the run. -/
theorem endError_of_first (hl : m.isHalted = false) (hn : FirstFrom (RunOver cancelled m) 0 n) :
    m.endError (Interrupts.asked {} cancelled n).cancel n = m.runError cancelled n := by
  cases hc : cancelled with
  | true =>
    -- the run is over before its first step
    obtain rfl : n = 0 := Nat.le_zero.mp (hn.2 ⟨Nat.le_refl 0, .inr ⟨rfl, hc⟩⟩)
    rfl
  | false =>
    obtain ⟨k, rfl, hlive, hhalt⟩ := exists_last_step hl hn hc
    rw [endError_of_halted hhalt, runError, foundFault_succ hl, foundFault_of_live hl hlive,
      Option.or_none]
    rfl

/-- Without an error the machine is halted. -/
theorem halted_of_runError (hl : m.isHalted = false) (hn : FirstFrom (RunOver cancelled m) 0 n)
    (he : m.runError cancelled n = none) : (m.stepN n).isHalted = true := by
  have hc : cancelled = false := by
    cases cancelled with
    | true => exact absurd he nofun
    | false => rfl
  obtain ⟨k, -, -, hhalt⟩ := exists_last_step hl hn hc
  exact hhalt

/-- If a run ends unbalanced, the last byte that it executed is the bracket that it stands on. -/
theorem getLast?_commands_of_unbalanced (hl : m.isHalted = false)
    (hn : FirstFrom (RunOver cancelled m) 0 n) (hu : (m.stepN n).halt? = some .unbalanced) :
    ((m.reports n).filterMap StepReport.command).getLast? =
      (m.stepN n).code[(m.stepN n).index]? := by
  have hhalt : (m.stepN n).isHalted = true := congrArg Option.isSome hu
  have hc : cancelled = false := by
    cases hc : cancelled with
    | false => rfl
    | true =>
      obtain rfl : n = 0 := Nat.le_zero.mp (hn.2 ⟨Nat.le_refl 0, .inr ⟨rfl, hc⟩⟩)
      exact absurd (hl.symm.trans hhalt) Bool.false_ne_true
  obtain ⟨k, rfl, hlive, -⟩ := exists_last_step hl hn hc
  rw [stepN_succ_last] at hu ⊢
  obtain ⟨f, hf⟩ : ∃ f, (m.stepN k).step.fault = some f :=
    Option.isSome_iff_exists.mp ((isSome_step_fault_iff _).mpr ⟨hlive, hu⟩)
  obtain ⟨-, b, hb, hm⟩ := step_eq_of_fault hf
  rw [filterMap_reports_succ, hm]
  exact List.getLast?_concat.trans hb.symm

end Machine

namespace Headless

variable {h : Headless} {m : Machine} {n : Nat}

/-! ## What is kept on the way -/

/-- What has been kept after `n` steps of a machine. -/
def watch (h : Headless) (m : Machine) (n : Nat) : Watch where
  lines := if h.trace then ((m.reports n).filterMap StepReport.traceLine?).toArray else #[]
  track := if h.recording then m.cuedTrack n else .empty

/-- An observation adds the line and the tone of an executed byte, and asks for nothing. -/
theorem observe_eq (hc : h.cancelAt = none) (w : Watch) (o : Observation) :
    h.observe w o =
      ({ lines := if h.trace then w.lines ++ o.result.traceLine?.toList else w.lines
         track := if h.recording then w.track.cueAll o.result.command.toList else w.track },
        {}) := by
  unfold observe StepReport.traceLine?
  cases o.result.command with
  | none => cases h.trace <;> cases h.recording <;> simp [Track.cueAll]
  | some b => cases h.trace <;> cases h.recording <;> simp [hc, Track.cueAll]

/-- **The observer along the plain steps** keeps the lines and tones of what they executed, and
after the start asks for nothing. -/
theorem watched_observe (hc : h.cancelAt = none) (m : Machine) (n : Nat) :
    watched h.observe h.cancelled {} m n = (h.watch m n, Interrupts.asked {} h.cancelled n) := by
  induction n with
  | zero =>
    have hwatch : h.watch m 0 = {} := by
      unfold watch Machine.cuedTrack
      cases h.trace <;> cases h.recording <;> rfl
    rw [hwatch]
    rfl
  | succ n ih =>
    rw [watched, ih, observe_eq hc]
    have hasked : Interrupts.asked {} h.cancelled (n + 1) = {} := rfl
    rw [hasked]
    unfold watch Machine.cuedTrack
    simp only [Machine.filterMap_reports_succ, Track.cueAll_append, Stepped.observation]
    cases h.trace <;> cases h.recording <;> simp

theorem watch_run (m : Machine) (n : Nat) : h.watch m.run n = h.watch m n := by
  unfold watch Machine.cuedTrack
  rw [(Machine.Alike.run m).reports n]

/-! ## When a run is over -/

theorem cancel_asked_iff (cancelled : Bool) (n : Nat) :
    (Interrupts.asked {} cancelled n).cancel = true ↔ n = 0 ∧ cancelled = true := by
  cases n with
  | zero => exact ⟨fun hc => ⟨rfl, hc⟩, fun hc => hc.2⟩
  | succ n => exact ⟨fun hc => absurd hc nofun, fun hc => absurd hc.1 nofun⟩

theorem pacedOver_observe (hc : h.cancelAt = none) (m : Machine) :
    PacedOver h.observe h.cancelled {} m.run = RunOver h.cancelled m := by
  funext n
  simp only [PacedOver, RunOver, watched_observe hc, pause_asked, Bool.false_eq_true, false_or,
    cancel_asked_iff, ((Machine.Alike.run m).stepN n).isHalted_eq]

theorem allOver_observe (hc : h.cancelAt = none) (m : Machine) :
    AllOver h.observe h.cancelled {} m = RunOver h.cancelled m := by
  funext n
  simp only [AllOver, RunOver, watched_observe hc, cancel_asked_iff]

/-! ## How it ends -/

/-- The machine with which a driver ends a run of `n` steps. -/
def final (h : Headless) (m : Machine) (n : Nat) : Machine :=
  if h.animate then (m.run.stepN n).pause else m.stepN n

theorem alike_final (h : Headless) (m : Machine) (n : Nat) : (m.stepN n).Alike (h.final m n) := by
  unfold final
  split_ifs
  · exact m.alike_pause_run_stepN n
  · exact .refl _

/-- **When and how a driver ends**, with a timer or without. -/
theorem drive_returns_iff (hc : h.cancelAt = none) (hs : m.status ≠ .running)
    (hl : m.isHalted = false) (o : Outcome Watch) :
    (∃ rounds, h.drive rounds m = some o) ↔
      ∃ n, FirstFrom (RunOver h.cancelled m) 0 n ∧
        o = ⟨h.final m n, h.watch m n, m.runError h.cancelled n⟩ := by
  have hend (n : Nat) (hn : FirstFrom (RunOver h.cancelled m) 0 n) :
      m.endError (watched h.observe h.cancelled {} m n).2.cancel n =
        m.runError h.cancelled n := by
    rw [watched_observe hc]
    exact Machine.endError_of_first hl hn
  unfold drive final
  cases h.animate with
  | true =>
    simp only [if_true]
    rw [runPaced_returns_iff, pacedOver_observe hc]
    refine exists_congr fun n => and_congr_right fun hn => ?_
    rw [pacedEnd, ← (Machine.Alike.run m).endError, ← hend n hn, watched_observe hc,
      watched_observe hc, watch_run]
  | false =>
    simp only [Bool.false_eq_true, if_false]
    rw [runAll_returns_iff _ _ _ _ hs hl, allOver_observe hc]
    refine exists_congr fun n => and_congr_right fun hn => ?_
    rw [allEnd, hend n hn, watched_observe hc]

/-- What is printed at the end does not tell by whom the machine was driven. -/
theorem closing_alike {m m' : Machine} (hm : m.Alike m') : h.closing m' = h.closing m := by
  unfold closing
  rw [hm.output_eq, hm.tape_eq]

/-- Neither does what is logged: the status is logged only of a machine that is halted. -/
theorem verdict_final (h : Headless) (hl : m.isHalted = false)
    (hn : FirstFrom (RunOver h.cancelled m) 0 n) :
    verdict (h.final m n) (m.runError h.cancelled n) =
      verdict (m.stepN n) (m.runError h.cancelled n) := by
  have hm := h.alike_final m n
  cases he : m.runError h.cancelled n with
  | none => rw [hm.eq_of_halted (Machine.halted_of_runError hl hn he)]
  | some e =>
    unfold verdict
    rw [hm.index_eq]

/-! ## The whole run -/

/-- What a run that is over after `n` steps leaves behind. -/
def performance (h : Headless) (m : Machine) (n : Nat) : Performance where
  printed := (h.watch m n).lines.toList ++ h.closing (m.stepN n)
  track := (h.watch m n).track
  log := [verdict (m.stepN n) (m.runError h.cancelled n)]
  failure := (m.runError h.cancelled n).map .run

/-- **When and how a run ends.** -/
theorem run_returns_iff (hc : h.cancelAt = none)
    (hm : Machine.load? h.source h.tapeSize = .ok m) (p : Performance) :
    (∃ rounds, h.run rounds = some p) ↔
      ∃ n, FirstFrom (RunOver h.cancelled m) 0 n ∧ p = h.performance m n := by
  have hs := Machine.ne_running_of_load? hm
  have hl := Machine.isHalted_of_load? hm
  have hperformance (n : Nat) (hn : FirstFrom (RunOver h.cancelled m) 0 n) :
      h.performance m n =
        { printed := (h.watch m n).lines.toList ++ h.closing (h.final m n)
          track := (h.watch m n).track
          log := [verdict (h.final m n) (m.runError h.cancelled n)]
          failure := (m.runError h.cancelled n).map .run } := by
    rw [performance, closing_alike (h.alike_final m n), h.verdict_final hl hn]
  unfold run
  simp only [hm, Option.map_eq_some_iff]
  constructor
  · rintro ⟨rounds, o, ho, rfl⟩
    obtain ⟨n, hn, rfl⟩ := (drive_returns_iff hc hs hl o).mp ⟨rounds, ho⟩
    exact ⟨n, hn, (hperformance n hn).symm⟩
  · rintro ⟨n, hn, rfl⟩
    obtain ⟨rounds, ho⟩ := (drive_returns_iff hc hs hl _).mpr ⟨n, hn, rfl⟩
    exact ⟨rounds, _, ho, (hperformance n hn).symm⟩

/-- The driver of a run that is over after `n` steps ends with the machine of those steps. -/
theorem drive_of_run (hc : h.cancelAt = none) (hm : Machine.load? h.source h.tapeSize = .ok m)
    (hn : FirstFrom (RunOver h.cancelled m) 0 n) {rounds : Nat} {p : Performance}
    (hp : h.run rounds = some p) :
    ∃ o, h.drive rounds m = some o ∧ o.machine.Alike (m.stepN n) := by
  unfold run at hp
  simp only [hm, Option.map_eq_some_iff] at hp
  obtain ⟨o, ho, -⟩ := hp
  obtain ⟨n', hn', rfl⟩ := (drive_returns_iff hc (Machine.ne_running_of_load? hm)
    (Machine.isHalted_of_load? hm) o).mp ⟨rounds, ho⟩
  obtain rfl : n = n' := hn.unique hn'
  exact ⟨_, ho, (h.alike_final m n).symm⟩

/-- A run on a tape size that is refused prints, records and logs nothing. -/
theorem run_of_refused (hsize : h.tapeSize ≤ 0) (rounds : Nat) :
    h.run rounds = some { failure := some (.tapeSize ⟨h.tapeSize⟩) } := by
  have hload : Machine.load? h.source h.tapeSize = .error ⟨h.tapeSize⟩ :=
    Machine.load?_eq_error h.source hsize
  unfold run
  simp only [hload]

/-- **Settings that only watch have no influence**: two runs of one program on one tape size log the
same and fail the same, and if both are recorded or none is, their tracks are the same. -/
theorem run_agree (h h' : Headless) {rounds rounds' : Nat} {p p' : Performance}
    (hc : h.cancelAt = none) (hc' : h'.cancelAt = none) (hsource : h'.source = h.source)
    (hsize : h'.tapeSize = h.tapeSize) (hcancelled : h'.cancelled = h.cancelled)
    (hp : h.run rounds = some p) (hp' : h'.run rounds' = some p') :
    p'.log = p.log ∧ p'.failure = p.failure ∧
      (h'.recording = h.recording → p'.track = p.track) := by
  rcases Int.lt_or_le 0 h.tapeSize with hpos | hneg
  · obtain ⟨m, hm⟩ := Machine.load?_eq_ok_of_pos h.source hpos
    have hm' : Machine.load? h'.source h'.tapeSize = .ok m := by rw [hsource, hsize, hm]
    obtain ⟨n, hn, rfl⟩ := (run_returns_iff hc hm p).mp ⟨rounds, hp⟩
    obtain ⟨n', hn', rfl⟩ := (run_returns_iff hc' hm' p').mp ⟨rounds', hp'⟩
    -- the number of steps is the first at which the run is over, so it is one and the same
    rw [hcancelled] at hn'
    obtain rfl : n = n' := hn.unique hn'
    unfold performance watch
    rw [hcancelled]
    exact ⟨rfl, rfl, fun hrec => by rw [hrec]⟩
  · rw [run_of_refused hneg] at hp
    rw [run_of_refused (by rw [hsize]; exact hneg)] at hp'
    rw [← Option.some.inj hp, ← Option.some.inj hp', hsize]
    exact ⟨rfl, rfl, fun _ => rfl⟩

/-- What is printed: the trace if it is wanted, the output, and the tape if it is wanted. -/
theorem join_printed (h : Headless) (m : Machine) (n : Nat) :
    String.join (h.performance m n).printed =
      (if h.trace then String.join ((m.reports n).filterMap StepReport.traceLine?) else "") ++
        h.encoding.decode (m.stepN n).output.toList ++
        (if h.dump then "\n" ++ (m.stepN n).tape.dump else "") := by
  unfold performance closing watch
  cases h.trace <;> cases h.dump <;> simp [Tape.dump, String.append_assoc]

end Headless

end TapeDeck
