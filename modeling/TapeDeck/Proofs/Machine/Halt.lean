import TapeDeck.Proofs.Machine.Invariant

/-!
# The halt is final, and a fault is found once

A machine that is halted stays as it is under every call and answers every step alike
(`calls_of_halted`, `answers_of_halted`). A step that finds a fault halts the machine and does
nothing else to it (`step_eq_of_fault`). So no second fault can follow the first one: the answers to
any calls hold one fault if they leave the machine unbalanced, and none otherwise
(`countP_fault_answers`).

**`halt_is_absorbing`** puts this together for every sequence of calls on a machine that was just
loaded.
-/

namespace TapeDeck.Machine

variable {m : Machine}

/-! ## Calls on a halted machine -/

theorem call_of_halted (h : m.isHalted = true) (c : Call) : m.call c = m := by
  by_cases hc : c = .step
  · subst hc
    show m.step.machine = m
    rw [step_of_halted h]
    rfl
  · exact ((m.alike_call hc).eq_of_halted h).symm

/-- No call changes a halted machine. -/
theorem calls_of_halted (h : m.isHalted = true) (cs : List Call) : m.calls cs = m := by
  refine calls_induction (motive := (· = m)) rfl ?_ cs
  rintro m' c rfl
  exact call_of_halted h c

/-- A halted machine answers every step alike. -/
theorem answers_of_halted (h : m.isHalted = true) (cs : List Call) :
    m.answers cs = List.replicate (cs.count .step) m.rest.answer := by
  induction cs with
  | nil => rfl
  | cons c cs ih =>
    by_cases hc : c = .step
    · subst hc
      rw [answers, step_of_halted h, List.count_cons_self, List.replicate_succ]
      exact congrArg _ ih
    · rw [answers_cons_of_ne m hc, call_of_halted h, List.count_cons_of_ne hc, ih]

/-! ## The step that finds a fault -/

/-- **When a step finds a fault, and which**: a live machine stands on a bracket that has to look
for its partner and has none. -/
theorem step_fault_eq_some_iff {f : Unbalanced} :
    m.step.fault = some f ↔ m.isHalted = false ∧ m.Scans ∧ partnerOf? m.code m.index = none ∧
      ∃ b, m.code[m.index]? = some b ∧ m.fault b = f := by
  constructor
  · intro hf
    obtain ⟨-, hm⟩ | ⟨-, -, hm⟩ | ⟨b, -, -, -, hm⟩ | ⟨b, j, -, -, -, -, hm⟩ |
      ⟨b, hl, hb, hs, hj, hm⟩ := m.step_cases
    · rw [hm] at hf
      exact absurd hf nofun
    · rw [hm] at hf
      exact absurd hf nofun
    · rw [hm] at hf
      exact absurd hf nofun
    · rw [hm] at hf
      exact absurd hf nofun
    · rw [hm] at hf
      exact ⟨hl, hs, hj, b, hb, Option.some.inj hf⟩
  · rintro ⟨hl, hs, hj, b, hb, rfl⟩
    rw [step_of_no_partner hl hb hs hj]
    rfl

theorem index_fault (m : Machine) (b : UInt8) : (m.fault b).index = m.index := by
  unfold fault
  split <;> rfl

/-- A step that finds a fault executes the bracket it stands on, halts the machine there and changes
nothing else. -/
theorem step_eq_of_fault {f : Unbalanced} (h : m.step.fault = some f) :
    f.index = m.index ∧ ∃ b, m.code[m.index]? = some b ∧
      m.step = (m.stop .unbalanced).executed m.index b none (some f) := by
  obtain ⟨hl, hs, hj, b, hb, rfl⟩ := step_fault_eq_some_iff.mp h
  exact ⟨m.index_fault b, b, hb, step_of_no_partner hl hb hs hj⟩

/-! ## How often a fault is found -/

/-- **A fault is found once**, by calls that leave a live machine unbalanced, and never by
others. -/
theorem countP_fault_answers (hl : m.isHalted = false) (cs : List Call) :
    (m.answers cs).countP (fun a => a.2.isSome) =
      if (m.calls cs).halt? = some .unbalanced then 1 else 0 := by
  induction cs generalizing m with
  | nil =>
    have hnone : m.halt? = none := halt?_eq_none hl
    simp [answers, calls, hnone]
  | cons c cs ih =>
    by_cases hc : c = .step
    · subst hc
      have hcalls : m.calls (.step :: cs) = m.step.machine.calls cs := rfl
      have hanswers : m.answers (.step :: cs) = m.step.answer :: m.step.machine.answers cs := rfl
      rw [hcalls, hanswers, List.countP_cons]
      cases hh : m.step.machine.isHalted with
      | true =>
        -- the machine is at rest from here on, so this step is the only one that can find a fault
        have hrest : (m.step.machine.answers cs).countP (fun a => a.2.isSome) = 0 := by
          rw [answers_of_halted hh, List.countP_replicate]
          rfl
        have hfault : m.step.answer.2.isSome = true ↔
            m.step.machine.halt? = some .unbalanced := by
          rw [Stepped.answer, isSome_step_fault_iff]
          exact and_iff_right hl
        rw [hrest, calls_of_halted hh, Nat.zero_add]
        exact if_congr hfault rfl rfl
      | false =>
        have hnone : m.step.answer.2 = none := fault_eq_none_of_live hh
        rw [ih hh, hnone]
        rfl
    · have hlive : (m.call c).isHalted = false := (m.alike_call hc).isHalted_eq.symm.trans hl
      rw [answers_cons_of_ne m hc]
      exact ih hlive

end TapeDeck.Machine

namespace TapeDeck

/-- **The halt is final, and a fault is found once.** After any calls on a machine that was just
loaded: one step at most has returned a fault, and one has exactly when the machine is unbalanced; a
step that returns a fault executes the bracket that the fault names, halts the machine on it and
changes nothing else; a halted machine stays as it is under all further calls, and their steps
execute nothing, report the machine as it is and return no fault; a step that finishes the program
returns no fault either. -/
theorem halt_is_absorbing (source : Bytes) (n : Nat) (cs : List Call) :
    ∃ m₀, Machine.load? source ((n + 1 : Nat) : Int) = .ok m₀ ∧
      let m := m₀.calls cs
      let faults := (m₀.answers cs).countP fun a => a.2.isSome
      (faults ≤ 1 ∧ (faults = 1 ↔ m.halt? = some .unbalanced)) ∧
      (∀ f, m.step.fault = some f →
        m.halt? = none ∧ m.step.machine = { m with status := .halted .unbalanced } ∧
        m.step.result.executed = true ∧ m.step.result.index = f.index ∧ f.index = m.index ∧
        m.step.result.command = source[f.index]?) ∧
      (∀ reason, m.status = .halted reason → ∀ ds, m.calls ds = m ∧
        m.answers ds = List.replicate (ds.count .step)
          ({ command := none, index := m.index, tape := m.tape, output := none,
             halt := some reason }, none)) ∧
      (m.step.machine.halt? = some .finished → m.step.fault = none) := by
  refine ⟨_, Machine.load?_succ source n, ?_⟩
  have hcode : ((Machine.start source (Tape.blank n)).calls cs).code = source.toArray :=
    (Machine.Invariant.calls source n cs).code_eq
  have hcount := Machine.countP_fault_answers (m := .start source (Tape.blank n)) rfl cs
  generalize (Machine.start source (Tape.blank n)).answers cs = answers at hcount
  generalize (Machine.start source (Tape.blank n)).calls cs = m at hcode hcount
  refine ⟨?_, fun f hf => ?_, fun reason hr ds => ?_, fun hfin => ?_⟩
  · simp only [hcount]
    by_cases hu : m.halt? = some .unbalanced
    · simp [hu]
    · simp [hu]
  · have hl := (Machine.step_fault_eq_some_iff.mp hf).1
    obtain ⟨hindex, b, hb, hstep⟩ := Machine.step_eq_of_fault hf
    rw [hcode, List.getElem?_toArray] at hb
    refine ⟨Machine.halt?_eq_none hl, ?_, ?_, ?_, hindex, ?_⟩
    · rw [hstep]
      rfl
    · rw [hstep]
      rfl
    · rw [hstep]
      exact hindex.symm
    · rw [hstep, hindex, hb]
      rfl
  · have hh : m.isHalted = true := Status.isHalted_iff.mpr ⟨reason, hr⟩
    refine ⟨Machine.calls_of_halted hh ds, ?_⟩
    rw [Machine.answers_of_halted hh, Machine.rest, Machine.halt?, hr]
    rfl
  · cases hf : m.step.fault with
    | none => rfl
    | some f =>
      have hu := ((Machine.isSome_step_fault_iff m).mp (by rw [hf]; rfl)).2
      exact absurd (hfin.symm.trans hu) (by decide)

/-- A closing bracket without a partner, reached with the timer on: the step on it returns the
fault, and calls after it bring neither a change nor a second fault. -/
theorem halt_is_absorbing_unbalanced :
    let cs : List Call := [.run, .step]
    let ds : List Call := [.pause, .step, .run, .resume, .step]
    ∃ m, Machine.load? [0x2B, 0x5D] 1 = .ok m ∧
      (m.calls cs).step.fault = some (.noOpen 1) ∧
      m.calls (cs ++ [.step]) = { m.calls cs with status := .halted .unbalanced } ∧
      (m.calls (cs ++ [.step])).calls ds = m.calls (cs ++ [.step]) ∧
      ((m.answers (cs ++ .step :: ds)).countP fun a => a.2.isSome) = 1 := by
  intro cs ds
  obtain ⟨m, hm, -, hfault, -⟩ := halt_is_absorbing [0x2B, 0x5D] 0 cs
  obtain ⟨m', hm', -, -, hrest, -⟩ := halt_is_absorbing [0x2B, 0x5D] 0 (cs ++ [.step])
  obtain ⟨m'', hm'', ⟨-, hone⟩, -⟩ := halt_is_absorbing [0x2B, 0x5D] 0 (cs ++ .step :: ds)
  obtain rfl : Machine.start [0x2B, 0x5D] (Tape.blank 0) = m := Except.ok.inj hm
  obtain rfl : Machine.start [0x2B, 0x5D] (Tape.blank 0) = m' := Except.ok.inj hm'
  obtain rfl : Machine.start [0x2B, 0x5D] (Tape.blank 0) = m'' := Except.ok.inj hm''
  exact ⟨_, rfl, rfl, (hfault (.noOpen 1) rfl).2.1, (hrest .unbalanced rfl ds).1, hone.mpr rfl⟩

end TapeDeck
