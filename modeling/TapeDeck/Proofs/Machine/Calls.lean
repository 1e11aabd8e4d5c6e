import TapeDeck.Proofs.Machine.Alike
import Mathlib.Data.List.Induction

/-!
# Calls in any order

A machine is worked by four calls: step it, hand it to a timer, take it back, hand it over again.
`Machine.calls` makes a sequence of them, and `Machine.answers` collects what the steps among them
returned.

Handing a machine over or taking it back leaves it alike to what it was, and steps do not see the
difference. So only the number of steps counts: after any calls the machine is alike to the one that
as many plain steps give (`calls_alike_stepN`), and the answers are those of the plain steps
(`answers_eq_trace`). **`calls_transparent`** compares two sequences with equally many steps.

In what the machines may differ, who drives them, is said by the calls alone, as long as the machine
is not halted (`status_calls`). A timer has the machine if it was handed over and not taken back
since, and handing over again counts once the machine is not ready any more (`HeldByTimer`).
-/

namespace TapeDeck

/-- What can be done with a machine. -/
inductive Call where
  | step
  | run
  | pause
  | resume
  deriving DecidableEq, Repr

/-- What a step returns to its caller: the result, and the fault if it found one. -/
def Stepped.answer (s : Stepped) : StepReport × Option Unbalanced :=
  (s.result, s.fault)

namespace Machine

/-- The machine after a call. -/
def call (m : Machine) : Call → Machine
  | .step => m.step.machine
  | .run => m.run
  | .pause => m.pause
  | .resume => m.resume

/-- The machine after a sequence of calls. -/
def calls (m : Machine) (cs : List Call) : Machine :=
  cs.foldl call m

/-- What the steps among the calls returned, in order. -/
def answers : Machine → List Call → List (StepReport × Option Unbalanced)
  | _, [] => []
  | m, .step :: cs => m.step.answer :: answers m.step.machine cs
  | m, c :: cs => answers (m.call c) cs

/-- What holds of a machine and is kept by every call holds after any calls. -/
theorem calls_induction {motive : Machine → Prop} {m : Machine} (base : motive m)
    (kept : ∀ (m : Machine) (c : Call), motive m → motive (m.call c)) (cs : List Call) :
    motive (m.calls cs) := by
  induction cs generalizing m with
  | nil => exact base
  | cons c cs ih => exact ih (kept m c base)

/-- A call that is no step leaves the machine alike to what it was. -/
theorem alike_call (m : Machine) {c : Call} (hc : c ≠ .step) : m.Alike (m.call c) := by
  cases c with
  | step => exact absurd rfl hc
  | run => exact .run m
  | pause => exact .pause m
  | resume => exact .resume m

theorem answers_cons_of_ne (m : Machine) {c : Call} (hc : c ≠ .step) (cs : List Call) :
    m.answers (c :: cs) = (m.call c).answers cs := by
  cases c with
  | step => exact absurd rfl hc
  | run => rfl
  | pause => rfl
  | resume => rfl

/-- **Only the steps count**: the machine after any calls is alike to the one that as many plain
steps give. -/
theorem calls_alike_stepN (m : Machine) (cs : List Call) :
    (m.calls cs).Alike (m.stepN (cs.count .step)) := by
  induction cs generalizing m with
  | nil => exact .refl m
  | cons c cs ih =>
    by_cases hc : c = .step
    · subst hc
      rw [List.count_cons_self]
      exact ih m.step.machine
    · -- the call changes only who drives, which the steps to come do not see
      rw [List.count_cons_of_ne hc]
      exact (ih (m.call c)).trans ((m.alike_call hc).symm.stepN _)

/-- **The answers are those of plain steps.** -/
theorem answers_eq_trace (m : Machine) (cs : List Call) :
    m.answers cs = (m.trace (cs.count .step)).map Stepped.answer := by
  induction cs generalizing m with
  | nil => rfl
  | cons c cs ih =>
    by_cases hc : c = .step
    · subst hc
      rw [List.count_cons_self, trace, List.map_cons, answers, ih]
    · rw [List.count_cons_of_ne hc, answers_cons_of_ne m hc, ih]
      exact (m.alike_call hc).symm.map_trace Prod.mk _

end Machine

/-! ## Who drives -/

/-- The machine was stepped or handed to a timer, so it is not ready any more. -/
def Begun (cs : List Call) : Prop :=
  ∃ c ∈ cs, c = .step ∨ c = .run

/-- A timer was handed the machine, or was handed it again after it had begun, and it was not taken
back since. -/
def HeldByTimer (cs : List Call) : Prop :=
  ∃ before c after, cs = before ++ c :: after ∧
    (c = .run ∨ c = .resume ∧ Begun before) ∧ .pause ∉ after

section Last

variable {cs : List Call} {c : Call}

theorem begun_concat_iff : Begun (cs ++ [c]) ↔ Begun cs ∨ c = .step ∨ c = .run := by
  simp [Begun, or_and_right, exists_or]

/-- The last call hands the machine over, or leaves it with the timer that has it. -/
theorem heldByTimer_concat_iff :
    HeldByTimer (cs ++ [c]) ↔
      c = .run ∨ (c = .resume ∧ Begun cs) ∨ (HeldByTimer cs ∧ c ≠ .pause) := by
  constructor
  · rintro ⟨before, d, after, hcs, hd, hafter⟩
    -- the call that counts is the last one or stands before it
    obtain rfl | ⟨later, e, rfl⟩ := List.eq_nil_or_concat after
    · obtain ⟨rfl, hlast⟩ := List.append_inj' hcs rfl
      obtain rfl := List.singleton_inj.mp hlast
      exact hd.imp_right .inl
    · rw [List.concat_eq_append] at hcs hafter
      rw [← List.cons_append, ← List.append_assoc] at hcs
      obtain ⟨rfl, hlast⟩ := List.append_inj' hcs rfl
      obtain rfl := List.singleton_inj.mp hlast
      rw [List.mem_append, List.mem_singleton, not_or] at hafter
      exact .inr (.inr ⟨⟨before, d, later, rfl, hd, hafter.1⟩, Ne.symm hafter.2⟩)
  · rintro (hrun | hresume | ⟨⟨before, d, after, rfl, hd, hafter⟩, hc⟩)
    · exact ⟨cs, c, [], rfl, .inl hrun, List.not_mem_nil⟩
    · exact ⟨cs, c, [], rfl, .inr hresume, List.not_mem_nil⟩
    · refine ⟨before, d, after ++ [c], by simp, hd, ?_⟩
      simp [hafter, hc.symm]

end Last

namespace Machine

variable {m : Machine}

theorem live_of_call {c : Call} (hl : (m.call c).isHalted = false) : m.isHalted = false := by
  by_cases hc : c = .step
  · subst hc
    exact live_of_stepN (n := 1) hl
  · rw [(m.alike_call hc).isHalted_eq, hl]

/-- A machine stays ready until it is stepped or handed over. -/
theorem status_call_eq_ready_iff (m : Machine) (c : Call) :
    (m.call c).status = .ready ↔ m.status = .ready ∧ ¬ (c = .step ∨ c = .run) := by
  cases c with
  | step => simp [call, m.status_step_ne_ready]
  | run => cases hs : m.status <;> simp [call, run, Status.run, hs]
  | pause => cases hs : m.status <;> simp [call, pause, Status.pause, hs]
  | resume => cases hs : m.status <;> simp [call, resume, Status.resume, hs]

/-- A call that leaves the machine live hands it to the timer, or leaves it there. -/
theorem status_call_eq_running_iff {c : Call} (hl : (m.call c).isHalted = false) :
    (m.call c).status = .running ↔
      c = .run ∨ (c = .resume ∧ m.status ≠ .ready) ∨ (m.status = .running ∧ c ≠ .pause) := by
  have hlive := live_of_call hl
  have hhalted (r : HaltReason) : m.status ≠ .halted r := fun hs =>
    absurd (Status.isHalted_iff.mpr ⟨r, hs⟩) (ne_true_of_eq_false hlive)
  cases c with
  | step => simpa [call] using ⟨running_of_step, fun h => running_step h hl⟩
  | run => cases hs : m.status <;> simp_all [call, run, Status.run]
  | pause => cases hs : m.status <;> simp_all [call, pause, Status.pause]
  | resume => cases hs : m.status <;> simp_all [call, resume, Status.resume]

/-- **Who drives a machine that is not halted**: nobody before it has begun, and a timer exactly if
it was handed the machine last. -/
theorem status_calls (source : Bytes) (tape : Tape) {cs : List Call}
    (hl : ((start source tape).calls cs).isHalted = false) :
    (((start source tape).calls cs).status = .ready ↔ ¬ Begun cs) ∧
      (((start source tape).calls cs).status = .running ↔ HeldByTimer cs) := by
  induction cs using List.reverseRecOn with
  | nil =>
    have hbegun : ¬ Begun [] := by simp [Begun]
    have hheld : ¬ HeldByTimer [] := by simp [HeldByTimer]
    exact ⟨iff_of_true rfl hbegun, iff_of_false Status.noConfusion hheld⟩
  | append_singleton cs c ih =>
    have hcalls : (start source tape).calls (cs ++ [c]) = ((start source tape).calls cs).call c :=
      List.foldl_append
    rw [hcalls] at hl ⊢
    obtain ⟨hready, hrunning⟩ := ih (live_of_call hl)
    constructor
    · rw [status_call_eq_ready_iff, begun_concat_iff, hready, ← not_or]
    · rw [status_call_eq_running_iff hl, heldByTimer_concat_iff, hrunning, ne_eq, hready, not_not]

example : ((start [0x2B] (Tape.blank 0)).calls [.resume, .step, .resume]).status = .running ∧
    ((start [0x2B] (Tape.blank 0)).calls [.resume, .step]).status = .paused := by decide

end Machine

/-- **Handing over and taking back are transparent.** Two sequences of calls with equally many
steps, made on fresh machines of the same program and tape size, return the same results and faults.
The machines they leave agree in all but who drives them; once one is halted they are equal. Who
drives one that is not halted is said by the calls that were made on it. -/
theorem calls_transparent (source : Bytes) (n : Nat) {cs cs' : List Call}
    (h : cs.count .step = cs'.count .step) :
    ∃ m, Machine.load? source ((n + 1 : Nat) : Int) = .ok m ∧
      m.answers cs = m.answers cs' ∧
      (m.calls cs).Alike (m.calls cs') ∧
      (m.calls cs).isHalted = (m.calls cs').isHalted ∧
      ((m.calls cs).isHalted = true → m.calls cs = m.calls cs') ∧
      ∀ ds, (m.calls ds).isHalted = false →
        ((m.calls ds).status = .ready ↔ ¬ Begun ds) ∧
        ((m.calls ds).status = .running ↔ HeldByTimer ds) := by
  refine ⟨_, Machine.load?_succ source n, ?_⟩
  have hstatus := @Machine.status_calls source (Tape.blank n)
  generalize Machine.start source (Tape.blank n) = m at hstatus
  have halike : (m.calls cs).Alike (m.calls cs') := by
    have := (m.calls_alike_stepN cs').symm
    rw [← h] at this
    exact (m.calls_alike_stepN cs).trans this
  refine ⟨?_, halike, halike.isHalted_eq, halike.eq_of_halted, fun ds => hstatus⟩
  rw [m.answers_eq_trace cs, m.answers_eq_trace cs', h]

/-- Three steps to a bracket without a partner and one beyond it, once plainly and once with the
timer switched on and off in between. -/
theorem calls_transparent_unbalanced :
    let cs : List Call := [.step, .step, .step, .step]
    let cs' : List Call :=
      [.run, .step, .pause, .step, .resume, .pause, .run, .step, .run, .resume, .step, .pause]
    cs.count .step = cs'.count .step ∧
      ∃ m, Machine.load? [0x2B, 0x2E, 0x5D] 1 = .ok m ∧ m.answers cs = m.answers cs' ∧
        (m.calls cs).isHalted = true ∧ m.calls cs = m.calls cs' := by
  intro cs cs'
  refine ⟨by decide, ?_⟩
  obtain ⟨m, hm, hanswers, -, -, heq, -⟩ :=
    @calls_transparent [0x2B, 0x2E, 0x5D] 0 cs cs' (by decide)
  obtain rfl : Machine.start [0x2B, 0x2E, 0x5D] (Tape.blank 0) = m := Except.ok.inj hm
  exact ⟨_, rfl, hanswers, by decide, heq (by decide)⟩

end TapeDeck
