import TapeDeck.Proofs.Machine.Calls

/-!
# The machine as its results tell it

A driver sees nothing of a machine but what the steps return. That is enough: `Accounts` ties a list
of results to a machine, in its output, in its number of steps and, by the last result, in its tape
and its halt state. A step adds its own result and keeps the account (`Accounts.step`), so a run
does (`Accounts.reports`), and a change of the driver does not touch it (`Accounts.of_alike`).

The count has one exception. The step that finds a bracket without a partner executes the bracket
and is not counted, so an unbalanced machine has executed one byte more than it has steps
(`Machine.executions`).

**`results_tell_machine`** reads the account off for any calls.
-/

namespace TapeDeck

/-! ## One step -/

/-- The effect of a byte on the output is what it emits. -/
theorem Store.output_act_eq (w : Store) (b : UInt8) :
    (w.act b).output.toList = w.output.toList ++ (w.emitted b).toList := by
  unfold act emitted
  split <;> simp_all

/-- Only the output command emits. -/
theorem Store.isSome_emitted_iff (w : Store) (b : UInt8) :
    (w.emitted b).isSome = true ↔ b = Command.output.toByte := by
  rw [← Command.ofByte?_eq_some_iff]
  unfold emitted
  split <;> simp_all

/-- What is emitted is the current cell, and stays it. -/
theorem Store.read_act_of_emitted {w : Store} {b v : UInt8} (h : w.emitted b = some v) :
    (w.act b).tape.read = v := by
  unfold emitted at h
  split at h
  · rename_i hb
    simp only [act, hb]
    exact Option.some.inj h
  · exact absurd h nofun

namespace Machine

/-- The number of bytes that a machine has executed. -/
def executions (m : Machine) : Nat :=
  m.steps + if m.halt? = some .unbalanced then 1 else 0

theorem executions_of_live {m : Machine} (h : m.isHalted = false) : m.executions = m.steps := by
  rw [executions, halt?_eq_none h, if_neg nofun, Nat.add_zero]

section Step

variable (m : Machine)

theorem step_result_tape : m.step.result.tape = m.step.machine.tape := by
  obtain ⟨-, hm⟩ | ⟨-, -, hm⟩ | ⟨b, -, -, -, hm⟩ | ⟨b, j, -, -, -, -, hm⟩ | ⟨b, -, -, -, -, hm⟩ :=
    m.step_cases
  all_goals
    rw [hm]
    rfl

theorem step_result_index : m.step.result.index = m.index := by
  obtain ⟨-, hm⟩ | ⟨-, -, hm⟩ | ⟨b, -, -, -, hm⟩ | ⟨b, j, -, -, -, -, hm⟩ | ⟨b, -, -, -, -, hm⟩ :=
    m.step_cases
  all_goals
    rw [hm]
    rfl

/-- The output grows by what the step reports. -/
theorem step_result_output :
    m.step.machine.output.toList = m.output.toList ++ m.step.result.output.toList := by
  obtain ⟨-, hm⟩ | ⟨-, -, hm⟩ | ⟨b, -, -, -, hm⟩ | ⟨b, j, -, -, -, -, hm⟩ | ⟨b, -, -, -, -, hm⟩ :=
    m.step_cases
  case inr.inr.inl =>
    rw [hm]
    exact m.store.output_act_eq b
  all_goals
    rw [hm]
    exact (List.append_nil _).symm

/-- A step reports an output exactly when it has executed the output command. -/
theorem isSome_step_output_iff :
    m.step.result.output.isSome = true ↔ m.step.result.command = some Command.output.toByte := by
  -- a bracket that has to jump is not the output command
  have hjump {b : UInt8} (hb : m.code[m.index]? = some b) (hs : m.Scans) :
      b ≠ Command.output.toByte := by
    rintro rfl
    rcases hs with ⟨h, -⟩ | ⟨h, -⟩
    · exact getElem?_ne_of_ne hb (by decide) h
    · exact getElem?_ne_of_ne hb (by decide) h
  obtain ⟨-, hm⟩ | ⟨-, -, hm⟩ | ⟨b, -, hb, -, hm⟩ | ⟨b, j, -, hb, hs, -, hm⟩ |
    ⟨b, -, hb, hs, -, hm⟩ := m.step_cases
  · simp [hm, rest]
  · simp [hm, rest]
  · rw [hm]
    simpa [executed] using m.store.isSome_emitted_iff b
  · simpa [hm, executed] using hjump hb hs
  · simpa [hm, executed] using hjump hb hs

/-- The output that a step reports is the current cell of the tape that it reports. -/
theorem step_result_read {v : UInt8} (h : m.step.result.output = some v) :
    m.step.result.tape.read = v := by
  obtain ⟨-, hm⟩ | ⟨-, -, hm⟩ | ⟨b, -, -, -, hm⟩ | ⟨b, j, -, -, -, -, hm⟩ | ⟨b, -, -, -, -, hm⟩ :=
    m.step_cases
  case inr.inr.inl =>
    rw [hm] at h ⊢
    exact Store.read_act_of_emitted h
  all_goals
    rw [hm] at h
    exact absurd h nofun

/-- A step executes one byte if it reports a command, and none otherwise. -/
theorem executions_step :
    m.step.machine.executions = m.executions + if m.step.result.executed then 1 else 0 := by
  obtain ⟨hh, hm⟩ | ⟨hh, -, hm⟩ | ⟨b, hh, -, -, hm⟩ | ⟨b, j, hh, -, -, -, hm⟩ |
    ⟨b, hh, -, -, -, hm⟩ := m.step_cases
  · rw [hm]
    rfl
  · rw [hm, executions_of_live hh]
    rfl
  · rw [hm, executions_of_live hh]
    exact executions_of_live (live_advance hh b)
  · rw [hm, executions_of_live hh]
    exact executions_of_live (live_land hh j)
  · rw [hm, executions_of_live hh]
    rfl

end Step

/-! ## Runs -/

/-- The results `rs` account for the machine: its output is theirs, it has executed as many bytes as
they report, and the last of them has its tape and its halt state. -/
structure Accounts (rs : List StepReport) (m : Machine) : Prop where
  output_eq : rs.filterMap StepReport.output = m.output.toList
  executed_eq : rs.countP StepReport.executed = m.executions
  last_eq : ∀ r, rs.getLast? = some r → r.tape = m.tape ∧ r.halt = m.halt?

namespace Accounts

variable {rs : List StepReport} {m m' : Machine}

theorem start (source : Bytes) (tape : Tape) : Accounts [] (Machine.start source tape) :=
  ⟨rfl, rfl, nofun⟩

/-- A step adds its result to the account. -/
theorem step (h : Accounts rs m) : Accounts (rs ++ [m.step.result]) m.step.machine where
  output_eq := by
    rw [List.filterMap_append, h.output_eq, step_result_output]
    cases hout : m.step.result.output <;> simp [hout]
  executed_eq := by
    rw [List.countP_append, h.executed_eq, executions_step, List.countP_singleton]
  last_eq r hr := by
    rw [List.getLast?_concat] at hr
    obtain rfl := Option.some.inj hr
    exact ⟨m.step_result_tape, m.step_result_halt⟩

/-- An account does not say who drives the machine. -/
theorem of_alike (h : Accounts rs m) (hm : m.Alike m') : Accounts rs m' where
  output_eq := by rw [h.output_eq, hm.output_eq]
  executed_eq := by rw [h.executed_eq, executions, executions, hm.steps_eq, hm.halt_eq]
  last_eq r hr := by
    rw [← hm.tape_eq, ← hm.halt_eq]
    exact h.last_eq r hr

/-- **The reports of a run account for the machine that it leaves.** -/
theorem reports (source : Bytes) (tape : Tape) (n : Nat) :
    Accounts ((Machine.start source tape).reports n) ((Machine.start source tape).stepN n) := by
  induction n with
  | zero => exact start source tape
  | succ n ih =>
    rw [reports_add, stepN_succ_last]
    exact ih.step

end Accounts

/-- What the steps among the calls reported, in order. -/
def results (m : Machine) (cs : List Call) : List StepReport :=
  (m.answers cs).map Prod.fst

/-- The results of any calls are the reports of as many plain steps. -/
theorem results_eq_reports (m : Machine) (cs : List Call) :
    m.results cs = m.reports (cs.count .step) := by
  unfold results reports
  rw [answers_eq_trace, List.map_map]
  rfl

theorem mem_reports_iff {m : Machine} {n : Nat} {r : StepReport} :
    r ∈ m.reports n ↔ ∃ i < n, (m.stepN i).step.result = r := by
  rw [List.mem_iff_getElem?]
  constructor
  · rintro ⟨i, hi⟩
    have hlt : i < n := by
      have := (List.getElem?_eq_some_iff.mp hi).1
      rwa [length_reports] at this
    exact ⟨i, hlt, Option.some.inj ((getElem?_reports hlt m).symm.trans hi)⟩
  · rintro ⟨i, hi, rfl⟩
    exact ⟨i, getElem?_reports hi m⟩

end Machine

/-- **The results tell the machine.** Whatever calls were made, the results of the steps among them
are enough to know the machine. The last one has its pointer, its cells and its halt state. The
bytes that they report as output are its output; a result has one exactly when it executed the
output command, and it is the cell under the pointer of that result. Each has the position of the
machine right before its step, and the byte it executed is the byte of the program there. As many
executed as the machine has steps, and one more when it is unbalanced. -/
theorem results_tell_machine (source : Bytes) (n : Nat) (cs : List Call) :
    ∃ m₀, Machine.load? source ((n + 1 : Nat) : Int) = .ok m₀ ∧
      let m := m₀.calls cs
      let rs := m₀.results cs
      rs.length = cs.count .step ∧
      (∀ r, rs.getLast? = some r →
        r.tape.pointer = m.tape.pointer ∧ r.tape.cells = m.tape.cells ∧ r.halt = m.halt?) ∧
      rs.filterMap StepReport.output = m.output.toList ∧
      (∀ r ∈ rs, (r.output.isSome = true ↔ r.command = some Command.output.toByte) ∧
        ∀ v, r.output = some v → r.tape.cells[r.tape.pointer]? = some v) ∧
      (∀ before after, cs = before ++ .step :: after →
        ∃ r, rs[before.count .step]? = some r ∧ r.index = (m₀.calls before).index ∧
          ∀ b, r.command = some b → source[r.index]? = some b) ∧
      rs.countP StepReport.executed =
        m.steps + if m.halt? = some .unbalanced then 1 else 0 := by
  refine ⟨_, Machine.load?_succ source n, ?_⟩
  have hcode := Machine.code_of_load? (Machine.load?_succ source n)
  have haccount := Machine.Accounts.reports source (Tape.blank n) (cs.count .step)
  generalize Machine.start source (Tape.blank n) = m₀ at hcode haccount
  have haccount := haccount.of_alike (m₀.calls_alike_stepN cs).symm
  intro m rs
  have hrs : rs = m₀.reports (cs.count .step) := m₀.results_eq_reports cs
  rw [hrs]
  refine ⟨Machine.length_reports _ m₀, fun r hr => ?_, haccount.output_eq, fun r hr => ?_, ?_,
    haccount.executed_eq⟩
  · obtain ⟨htape, hhalt⟩ := haccount.last_eq r hr
    exact ⟨congrArg Tape.pointer htape, congrArg Tape.cells htape, hhalt⟩
  · obtain ⟨i, -, rfl⟩ := Machine.mem_reports_iff.mp hr
    refine ⟨Machine.isSome_step_output_iff _, fun v hv => ?_⟩
    rw [← Machine.step_result_read _ hv]
    exact Array.getElem?_eq_getElem _
  · rintro before after rfl
    have hlt : before.count .step < (before ++ .step :: after).count .step := by
      rw [List.count_append, List.count_cons_self]
      omega
    refine ⟨_, Machine.getElem?_reports hlt m₀, ?_, fun b hb => ?_⟩
    · rw [Machine.step_result_index]
      exact (m₀.calls_alike_stepN before).index_eq.symm
    · rw [Machine.step_result_command, Option.ite_none_left_eq_some] at hb
      rw [Machine.step_result_index, ← List.getElem?_toArray, ← hcode, ← m₀.code_stepN]
      exact hb.2

end TapeDeck
