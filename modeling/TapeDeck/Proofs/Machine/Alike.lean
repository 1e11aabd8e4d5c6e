import TapeDeck.Proofs.Machine.Step

/-!
# Machines that differ in who drives them

Two machines are alike when they agree in everything but the part of the status that says who drives
them: ready, paused and running are one, halted is halted for the same reason. Steps do not look at
that part. From alike machines they report the same, find the same fault and leave alike machines
(`Alike.step`), and handing a machine over or taking it back leaves it alike to what it was. So
nothing that the steps of a run return tells alike machines apart (`Alike.map_trace`), and once
halted the machines are equal (`Alike.eq_of_halted`).
-/

namespace TapeDeck.Machine

/-- Equal but for who drives them. -/
structure Alike (m m' : Machine) : Prop where
  code_eq : m.code = m'.code
  tape_eq : m.tape = m'.tape
  index_eq : m.index = m'.index
  output_eq : m.output = m'.output
  steps_eq : m.steps = m'.steps
  halt_eq : m.halt? = m'.halt?

namespace Alike

variable {m m' m'' : Machine}

protected theorem refl (m : Machine) : m.Alike m := ⟨rfl, rfl, rfl, rfl, rfl, rfl⟩

protected theorem symm (h : m.Alike m') : m'.Alike m :=
  ⟨h.code_eq.symm, h.tape_eq.symm, h.index_eq.symm, h.output_eq.symm, h.steps_eq.symm,
    h.halt_eq.symm⟩

protected theorem trans (h : m.Alike m') (h' : m'.Alike m'') : m.Alike m'' :=
  ⟨h.code_eq.trans h'.code_eq, h.tape_eq.trans h'.tape_eq, h.index_eq.trans h'.index_eq,
    h.output_eq.trans h'.output_eq, h.steps_eq.trans h'.steps_eq, h.halt_eq.trans h'.halt_eq⟩

theorem isHalted_eq (h : m.Alike m') : m.isHalted = m'.isHalted :=
  congrArg Option.isSome h.halt_eq

/-- An alike machine is the same machine with another status. -/
theorem exists_status (h : m.Alike m') :
    ∃ s : Status, s.halt? = m.status.halt? ∧ m' = { m with status := s } := by
  refine ⟨m'.status, h.halt_eq.symm, ?_⟩
  ext1
  · exact h.code_eq.symm
  · exact h.tape_eq.symm
  · exact h.index_eq.symm
  · exact h.output_eq.symm
  · rfl
  · exact h.steps_eq.symm

theorem of_status {s : Status} (h : s.halt? = m.status.halt?) :
    m.Alike { m with status := s } :=
  ⟨rfl, rfl, rfl, rfl, rfl, h.symm⟩

theorem run (m : Machine) : m.Alike m.run :=
  of_status (by cases m.status <;> rfl)

theorem pause (m : Machine) : m.Alike m.pause :=
  of_status (by cases m.status <;> rfl)

theorem resume (m : Machine) : m.Alike m.resume :=
  of_status (by cases m.status <;> rfl)

/-- **Steps do not see who drives.** -/
theorem step (h : m.Alike m') :
    m.step.result = m'.step.result ∧ m.step.fault = m'.step.fault ∧
      m.step.machine.Alike m'.step.machine := by
  obtain ⟨s, hs, rfl⟩ := h.exists_status
  have hl := h.isHalted_eq
  have hbegin : s.begin.halt? = m.status.begin.halt? := by
    rw [Status.halt?_begin, Status.halt?_begin, hs]
  obtain ⟨hh, hm⟩ | ⟨hh, he, hm⟩ | ⟨b, hh, hb, hn, hm⟩ | ⟨b, j, hh, hb, hc, hj, hm⟩ |
    ⟨b, hh, hb, hc, hj, hm⟩ := m.step_cases
  · rw [hm, step_of_halted (hl.symm.trans hh)]
    exact ⟨by rw [rest, rest, h.halt_eq], rfl, h⟩
  · rw [hm, step_of_end (hl.symm.trans hh) he]
    exact ⟨rfl, rfl, ⟨rfl, rfl, rfl, rfl, rfl, rfl⟩⟩
  · rw [hm, step_of_plain (hl.symm.trans hh) hb hn]
    refine ⟨?_, rfl, ⟨rfl, rfl, rfl, rfl, rfl, hbegin.symm⟩⟩
    exact congrArg (StepReport.mk _ _ _ _) hbegin.symm
  · rw [hm, step_of_partner (hl.symm.trans hh) hb hc hj]
    refine ⟨?_, rfl, ⟨rfl, rfl, rfl, rfl, rfl, hbegin.symm⟩⟩
    exact congrArg (StepReport.mk _ _ _ _) hbegin.symm
  · rw [hm, step_of_no_partner (hl.symm.trans hh) hb hc hj]
    exact ⟨rfl, rfl, ⟨rfl, rfl, rfl, rfl, rfl, rfl⟩⟩

/-- As many steps of alike machines leave alike machines. -/
theorem stepN (h : m.Alike m') (n : Nat) : (m.stepN n).Alike (m'.stepN n) := by
  induction n generalizing m m' with
  | zero => exact h
  | succ n ih => exact ih h.step.2.2

/-- What is read off the results and faults of as many steps of alike machines is the same. -/
theorem map_trace {α : Type} (h : m.Alike m') (f : StepReport → Option Unbalanced → α) (n : Nat) :
    (m.trace n).map (fun s => f s.result s.fault) =
      (m'.trace n).map fun s => f s.result s.fault := by
  induction n generalizing m m' with
  | zero => rfl
  | succ n ih =>
    obtain ⟨hresult, hfault, hmachine⟩ := h.step
    rw [trace, trace, List.map_cons, List.map_cons, hresult, hfault, ih hmachine]

theorem reports (h : m.Alike m') (n : Nat) : m.reports n = m'.reports n :=
  h.map_trace (fun r _ => r) n

/-! ## When alike machines are equal -/

theorem eq_of_status (h : m.Alike m') (hs : m.status = m'.status) : m = m' :=
  Machine.ext h.code_eq h.tape_eq h.index_eq h.output_eq hs h.steps_eq

/-- A halted machine is equal to every machine that it is alike to. -/
theorem eq_of_halted (h : m.Alike m') (hh : m.isHalted = true) : m = m' := by
  obtain ⟨r, hr⟩ := Status.isHalted_iff.mp hh
  have hr' : m'.status = .halted r :=
    Status.halt?_eq_some_iff.mp (h.halt_eq.symm.trans (Status.halt?_eq_some_iff.mpr hr))
  exact h.eq_of_status (hr.trans hr'.symm)

end Alike

end TapeDeck.Machine
