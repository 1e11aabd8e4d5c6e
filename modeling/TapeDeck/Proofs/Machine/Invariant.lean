import TapeDeck.Proofs.Machine.Bounds
import TapeDeck.Proofs.Machine.Calls
import TapeDeck.Proofs.Program.Tree

/-!
# What holds of a machine at all times

`Machine.Invariant` is what a machine that was loaded with a program and a tape size keeps under
every call: its program and the size of its tape are those it was loaded with, its position is not
beyond the end, it has finished only at the end, it is unbalanced only on a bracket that had to look
for a partner and has none, and it is ready only at the start.

The induction is `calls_induction`. Handing over and taking back touch only the status
(`Invariant.of_status`), so the work is in the step, by the five kinds of step.

**`machine_invariant`** reads the invariant off for every sequence of calls. It adds that all reads
are inside the program and the tape, and that no call takes back output.
-/

namespace TapeDeck

/-! ## Effects on the store -/

section Store

variable (w : Store) (b : UInt8)

/-- No effect changes the size of the tape. -/
theorem Store.size_act : (w.act b).tape.size = w.tape.size := by
  unfold act
  split <;> simp [Tape.size, Tape.moveRight, Tape.moveLeft, Tape.increment, Tape.decrement,
    Tape.write]

/-- No effect takes back output. -/
theorem Store.output_act : w.output.toList <+: (w.act b).output.toList := by
  unfold act
  split <;> simp

end Store

namespace Machine

/-! ## The invariant -/

/-- What a machine loaded with `source` on a tape of `n + 1` cells is at all times. -/
structure Invariant (source : Bytes) (n : Nat) (m : Machine) : Prop where
  code_eq : m.code = source.toArray
  size_eq : m.tape.size = n + 1
  index_le : m.index ≤ m.code.size
  finished : m.status = .halted .finished → m.index = m.code.size
  unbalanced : m.status = .halted .unbalanced → m.Scans ∧ partnerOf? m.code m.index = none
  ready : m.status = .ready → m = start source (Tape.blank n)

namespace Invariant

variable {source : Bytes} {n : Nat} {m : Machine}

theorem start (source : Bytes) (n : Nat) :
    (Machine.start source (Tape.blank n)).Invariant source n where
  code_eq := rfl
  size_eq := by simp [Machine.start, Tape.blank, Tape.size]
  index_le := Nat.zero_le _
  finished := nofun
  unbalanced := nofun
  ready _ := rfl

/-- A change of the driver keeps the invariant, if it does not make the machine ready. -/
theorem of_status (h : m.Invariant source n) {s : Status} (hs : s.halt? = m.status.halt?)
    (hready : s = .ready → m.status = .ready) :
    ({ m with status := s } : Machine).Invariant source n where
  code_eq := h.code_eq
  size_eq := h.size_eq
  index_le := h.index_le
  finished hf := by
    obtain rfl : s = .halted .finished := hf
    exact h.finished (Status.halt?_eq_some_iff.mp hs.symm)
  unbalanced hu := by
    obtain rfl : s = .halted .unbalanced := hu
    exact h.unbalanced (Status.halt?_eq_some_iff.mp hs.symm)
  ready hr := by
    obtain rfl : s = .ready := hr
    have hstart := h.ready (hready rfl)
    rw [hstart]
    rfl

/-- A machine that has moved on is neither halted nor ready, so its position and its tape are all
there is to keep. -/
theorem of_live (hcode : m.code = source.toArray) (hsize : m.tape.size = n + 1)
    (hindex : m.index ≤ m.code.size) (hlive : m.isHalted = false) (hready : m.status ≠ .ready) :
    m.Invariant source n where
  code_eq := hcode
  size_eq := hsize
  index_le := hindex
  finished hf := absurd hlive (by rw [isHalted, hf]; decide)
  unbalanced hu := absurd hlive (by rw [isHalted, hu]; decide)
  ready hr := absurd hr hready

theorem step (h : m.Invariant source n) : m.step.machine.Invariant source n := by
  have hbegin (hl : m.isHalted = false) : m.status.begin.isHalted = false := by
    rw [Status.isHalted_begin]
    exact hl
  obtain ⟨hh, hm⟩ | ⟨hh, he, hm⟩ | ⟨b, hh, hb, hn, hm⟩ | ⟨b, j, hh, hb, hc, hj, hm⟩ |
    ⟨b, hh, hb, hc, hj, hm⟩ := m.step_cases
  · rw [hm]
    exact h
  · -- the end is the only place where nothing is left to read
    have hend : m.index = m.code.size := by
      have := Array.getElem?_eq_none_iff.mp he
      have := h.index_le
      omega
    rw [hm]
    exact ⟨h.code_eq, h.size_eq, h.index_le, fun _ => hend, nofun, nofun⟩
  · have hlt : m.index < m.code.size := (Array.getElem?_eq_some_iff.mp hb).1
    rw [hm]
    refine of_live h.code_eq ?_ hlt (hbegin hh) (Status.begin_ne_ready m.status)
    exact (Store.size_act m.store b).trans h.size_eq
  · rw [hm]
    exact of_live h.code_eq h.size_eq (Nat.le_of_lt (lt_size_of_partnerOf? hj)) (hbegin hh)
      (Status.begin_ne_ready m.status)
  · rw [hm]
    exact ⟨h.code_eq, h.size_eq, h.index_le, nofun, fun _ => ⟨hc, hj⟩, nofun⟩

theorem call (h : m.Invariant source n) (c : Call) : (m.call c).Invariant source n := by
  cases c with
  | step => exact h.step
  | run => exact h.of_status (Alike.run m).halt_eq.symm (by cases m.status <;> simp [Status.run])
  | pause =>
    exact h.of_status (Alike.pause m).halt_eq.symm (by cases m.status <;> simp [Status.pause])
  | resume =>
    exact h.of_status (Alike.resume m).halt_eq.symm (by cases m.status <;> simp [Status.resume])

/-- **Every sequence of calls keeps the invariant.** -/
theorem calls (source : Bytes) (n : Nat) (cs : List Call) :
    ((Machine.start source (Tape.blank n)).calls cs).Invariant source n :=
  calls_induction (start source n) (fun _ c h => h.call c) cs

theorem pointer_lt (h : m.Invariant source n) : m.tape.pointer < n + 1 := by
  rw [← h.size_eq]
  exact m.tape.pointer_lt

end Invariant

/-! ## Output -/

/-- No call takes back output. -/
theorem output_call (m : Machine) (c : Call) :
    m.output.toList <+: (m.call c).output.toList := by
  cases c with
  | run => exact List.prefix_refl _
  | pause => exact List.prefix_refl _
  | resume => exact List.prefix_refl _
  | step =>
    show m.output.toList <+: m.step.machine.output.toList
    obtain ⟨-, hm⟩ | ⟨-, -, hm⟩ | ⟨b, -, -, -, hm⟩ | ⟨b, j, -, -, -, -, hm⟩ | ⟨b, -, -, -, -, hm⟩ :=
      m.step_cases
    · rw [hm]
      exact List.prefix_refl _
    · rw [hm]
      exact List.prefix_refl _
    · rw [hm]
      exact Store.output_act m.store b
    · rw [hm]
      exact List.prefix_refl _
    · rw [hm]
      exact List.prefix_refl _

end Machine

/-- **The invariant of the machine.** After any calls on a machine that was loaded with a program
and a tape size: both are what they were; the pointer is on the tape and the position not beyond the
end of the program, so no read falls outside; it is halted exactly when it has a reason, finished
only at the end, unbalanced only on a bracket that was to jump and belongs to no loop, ready only at
the start; and the next call, whichever it is, only adds to the output. -/
theorem machine_invariant (source : Bytes) (n : Nat) (cs : List Call) :
    ∃ m₀, Machine.load? source ((n + 1 : Nat) : Int) = .ok m₀ ∧
      let m := m₀.calls cs
      (m.code.toList = source ∧ m.tape.cells.size = n + 1) ∧
      (m.tape.pointer < n + 1 ∧ m.index ≤ source.length) ∧
      (m.stepWithin = some m.step ∧ m.currentCommandWithin = some m.currentCommand ∧
        findCloseWithin m.code 0 (m.index + 1) = some (closeOf? m.code m.index) ∧
        findOpenWithin m.code 0 m.index = some (openOf? m.code m.index)) ∧
      ((∃ r, m.status = .halted r) ↔ m.halt? ≠ none) ∧
      (m.halt? = some .finished → m.index = source.length) ∧
      (m.halt? = some .unbalanced → m.index < source.length ∧
        ((source[m.index]? = some openByte ∧ m.tape.read = 0) ∨
          (source[m.index]? = some closeByte ∧ m.tape.read ≠ 0)) ∧
        partnerOf? m.code m.index = none ∧ Unpaired m.code m.index) ∧
      (m.status = .ready → m.index = 0 ∧ m.steps = 0 ∧ (∀ v ∈ m.tape.cells, v = 0) ∧
        m.tape.pointer = 0 ∧ m.output = #[]) ∧
      ∀ c, m.output.toList <+: (m.call c).output.toList := by
  refine ⟨_, Machine.load?_succ source n, ?_⟩
  have h := Machine.Invariant.calls source n cs
  generalize (Machine.start source (Tape.blank n)).calls cs = m at h
  have hsource : m.code.toList = source := by rw [h.code_eq]
  have hlen : m.code.size = source.length := by rw [h.code_eq, List.size_toArray]
  have hget : m.code[m.index]? = source[m.index]? := by rw [h.code_eq, List.getElem?_toArray]
  refine ⟨⟨hsource, h.size_eq⟩, ⟨h.pointer_lt, hlen ▸ h.index_le⟩, ⟨?_, ?_, ?_, ?_⟩, ?_, ?_, ?_, ?_,
    m.output_call⟩
  · exact Machine.stepWithin_eq h.index_le
  · exact m.currentCommandWithin_eq
  · exact findCloseWithin_eq m.code 0 (m.index + 1)
  · exact findOpenWithin_eq 0 h.index_le
  · rw [← Status.isHalted_iff, ← Option.isSome_iff_ne_none]
    rfl
  · intro hf
    rw [← hlen]
    exact h.finished (Status.halt?_eq_some_iff.mp hf)
  · intro hu
    obtain ⟨hscans, hnone⟩ := h.unbalanced (Status.halt?_eq_some_iff.mp hu)
    refine ⟨?_, hget ▸ hscans, hnone, unpaired_of_partnerOf? hnone⟩
    rw [← hlen]
    rcases hscans with ⟨hb, -⟩ | ⟨hb, -⟩ <;> exact (Array.getElem?_eq_some_iff.mp hb).1
  · intro hr
    rw [h.ready hr]
    simp [Machine.start, Tape.blank]

end TapeDeck
