import TapeDeck.Proofs.Machine.Invariant

/-!
# A wider tape

The size of the tape shows only where the pointer goes over one of its ends. `widen` puts more zero
cells behind the last one. Reading, writing and the moves inside the tape commute with it
(`Tape.moveRight_widen`, `Tape.moveLeft_widen`), hence the effect of every byte does
(`Store.act_widen`), hence every step that does not wrap (`Machine.step_widen`). A run that does not
wrap is therefore the same run on the wider tape (`Machine.stepN_widen`, `Machine.trace_widen`).

A step wraps only if it *executes* the move (`Machine.Wraps`): a halted machine that stands on a
move at the end of its tape does not.

**`tape_size_irrelevant`** compares a program on two tape sizes.
-/

namespace TapeDeck

/-! ## Tapes -/

namespace Tape

/-- The tape with `d` more zero cells behind the last one. -/
def widen (t : Tape) (d : Nat) : Tape where
  cells := t.cells ++ Array.replicate d 0
  pointer := t.pointer
  pointer_lt := by
    have := t.pointer_lt
    rw [Array.size_append]
    omega

variable (t : Tape) (d : Nat)

@[simp]
theorem pointer_widen : (t.widen d).pointer = t.pointer := rfl

@[simp]
theorem size_widen : (t.widen d).size = t.size + d := by
  simp [widen, size]

theorem toList_cells_widen :
    (t.widen d).cells.toList = t.cells.toList ++ List.replicate d 0 := by
  simp [widen]

@[simp]
theorem read_widen : (t.widen d).read = t.read :=
  Array.getElem_append_left t.pointer_lt

@[simp]
theorem write_widen (v : UInt8) : (t.widen d).write v = (t.write v).widen d := by
  have hcells : ((t.widen d).write v).cells = ((t.write v).widen d).cells :=
    Array.set_append_left t.pointer_lt
  ext1
  · exact hcells
  · rfl

theorem increment_widen : (t.widen d).increment = t.increment.widen d := by
  unfold increment
  rw [read_widen, write_widen]

theorem decrement_widen : (t.widen d).decrement = t.decrement.widen d := by
  unfold decrement
  rw [read_widen, write_widen]

variable {t}

/-- A move to the right goes to the same cell, unless it starts at the last one. -/
theorem moveRight_widen (h : t.pointer + 1 ≠ t.size) :
    (t.widen d).moveRight = t.moveRight.widen d := by
  have hlt : t.pointer < t.size := t.pointer_lt
  have hpointer : (t.widen d).moveRight.pointer = t.moveRight.pointer := by
    simp only [moveRight, size_widen, pointer_widen]
    rw [Nat.mod_eq_of_lt (by omega), Nat.mod_eq_of_lt (by omega)]
  ext1
  · rfl
  · exact hpointer

/-- A move to the left goes to the same cell, unless it starts at the first one. -/
theorem moveLeft_widen (h : t.pointer ≠ 0) : (t.widen d).moveLeft = t.moveLeft.widen d := by
  have hlt : t.pointer < t.size := t.pointer_lt
  -- the sum that is taken modulo the size is one below the pointer, past one whole turn
  have hback {n : Nat} (hn : t.pointer < n) : (t.pointer + (n - 1)) % n = t.pointer - 1 := by
    have hsum : t.pointer + (n - 1) = t.pointer - 1 + n := by omega
    rw [hsum, Nat.add_mod_right, Nat.mod_eq_of_lt (by omega)]
  have hpointer : (t.widen d).moveLeft.pointer = t.moveLeft.pointer := by
    simp only [moveLeft, size_widen, pointer_widen]
    rw [hback (by omega), hback hlt]
  ext1
  · rfl
  · exact hpointer

theorem blank_widen (n d : Nat) : (blank n).widen d = blank (n + d) := by
  have hcells : ((blank n).widen d).cells = (blank (n + d)).cells := by
    simp only [widen, blank]
    rw [Array.replicate_append_replicate]
    congr 1
    omega
  ext1
  · exact hcells
  · rfl

end Tape

/-! ## Stores -/

/-- The store with `d` more zero cells on its tape. -/
def Store.widen (w : Store) (d : Nat) : Store := { w with tape := w.tape.widen d }

/-- The effect of a byte is the same on the wider tape, unless it is a move over an end. -/
theorem Store.act_widen (w : Store) {b : UInt8} (d : Nat)
    (hright : b = Command.right.toByte → w.tape.pointer + 1 ≠ w.tape.size)
    (hleft : b = Command.left.toByte → w.tape.pointer ≠ 0) :
    (w.widen d).act b = (w.act b).widen d := by
  unfold act widen
  cases hc : Command.ofByte? b with
  | none => rfl
  | some c =>
    have hb : b = c.toByte := Command.ofByte?_eq_some_iff.mp hc
    cases c with
    | right => simp only [Tape.moveRight_widen d (hright hb)]
    | left => simp only [Tape.moveLeft_widen d (hleft hb)]
    | increment => simp only [Tape.increment_widen]
    | decrement => simp only [Tape.decrement_widen]
    | output => simp only [Tape.read_widen]
    | loopOpen => rfl
    | loopClose => rfl

theorem Store.emitted_widen (w : Store) (b : UInt8) (d : Nat) :
    (w.widen d).emitted b = w.emitted b := by
  simp only [emitted, widen, Tape.read_widen]

/-! ## Steps -/

/-- The report with `d` more zero cells on its tape. -/
def StepReport.widen (r : StepReport) (d : Nat) : StepReport := { r with tape := r.tape.widen d }

/-- The machine with `d` more zero cells on its tape. -/
def Machine.widen (m : Machine) (d : Nat) : Machine := { m with tape := m.tape.widen d }

/-- The step with `d` more zero cells on the tape of its machine and of its report. -/
def Stepped.widen (s : Stepped) (d : Nat) : Stepped where
  machine := s.machine.widen d
  result := s.result.widen d
  fault := s.fault

namespace Machine

/-- The next step moves the pointer over an end of the tape: it executes a move to the right at the
last cell or a move to the left at the first. -/
def Wraps (m : Machine) : Prop :=
  (m.step.result.command = some Command.right.toByte ∧ m.tape.pointer + 1 = m.tape.size) ∨
    (m.step.result.command = some Command.left.toByte ∧ m.tape.pointer = 0)

instance (m : Machine) : Decidable m.Wraps :=
  inferInstanceAs (Decidable (_ ∨ _))

variable {m : Machine} (d : Nat)

theorem scans_widen_iff : (m.widen d).Scans ↔ m.Scans := by
  unfold Scans
  simp only [widen, Tape.read_widen]

theorem advance_widen {b : UInt8} (hb : m.step.result.command = some b) (hw : ¬ m.Wraps) :
    (m.widen d).advance b = (m.advance b).widen d := by
  have hact : (m.store.widen d).act b = (m.store.act b).widen d := by
    refine m.store.act_widen d (fun hright hend => hw (.inl ⟨?_, hend⟩))
      fun hleft hend => hw (.inr ⟨?_, hend⟩)
    · rw [hb, hright]
    · rw [hb, hleft]
  ext1
  · rfl
  · show ((m.store.widen d).act b).tape = ((m.store.act b).widen d).tape
    rw [hact]
  · rfl
  · show ((m.store.widen d).act b).output = ((m.store.act b).widen d).output
    rw [hact]
  · rfl
  · rfl

/-- **A step that does not wrap is the same on a wider tape.** -/
theorem step_widen (hw : ¬ m.Wraps) : (m.widen d).step = m.step.widen d := by
  have hs := m.scans_widen_iff d
  obtain ⟨hh, hm⟩ | ⟨hh, he, hm⟩ | ⟨b, hh, hb, hn, hm⟩ | ⟨b, j, hh, hb, hc, hj, hm⟩ |
    ⟨b, hh, hb, hc, hj, hm⟩ := m.step_cases
  · rw [hm]
    exact step_of_halted (m := m.widen d) hh
  · rw [hm]
    exact step_of_end (m := m.widen d) hh he
  · have hcommand : m.step.result.command = some b := by
      rw [hm]
      rfl
    have hplain := step_of_plain (m := m.widen d) hh hb (fun h => hn (hs.mp h))
    rw [hplain, hm, advance_widen d hcommand hw]
    exact congrArg (fun out => ((m.advance b).widen d).executed m.index b out none)
      (m.store.emitted_widen b d)
  · rw [hm]
    exact step_of_partner (m := m.widen d) hh hb (hs.mpr hc) hj
  · rw [hm]
    exact step_of_no_partner (m := m.widen d) hh hb (hs.mpr hc) hj

/-- **A run that does not wrap is the same on a wider tape.** -/
theorem stepN_widen {k : Nat} (hw : ∀ j < k, ¬ (m.stepN j).Wraps) :
    (m.widen d).stepN k = (m.stepN k).widen d := by
  induction k generalizing m with
  | zero => rfl
  | succ k ih =>
    have hstep : (m.widen d).step = m.step.widen d := step_widen d (hw 0 (Nat.zero_lt_succ k))
    rw [stepN, hstep]
    exact ih fun j hj => hw (j + 1) (Nat.succ_lt_succ hj)

/-- What the steps of a run that does not wrap return differs by the cells behind the tape alone. -/
theorem trace_widen {k : Nat} (hw : ∀ j < k, ¬ (m.stepN j).Wraps) :
    (m.widen d).trace k = (m.trace k).map fun s => s.widen d := by
  induction k generalizing m with
  | zero => rfl
  | succ k ih =>
    have hstep : (m.widen d).step = m.step.widen d := step_widen d (hw 0 (Nat.zero_lt_succ k))
    rw [trace, trace, hstep, List.map_cons]
    congr 1
    exact ih fun j hj => hw (j + 1) (Nat.succ_lt_succ hj)

theorem start_widen (source : Bytes) (n d : Nat) :
    (start source (Tape.blank n)).widen d = start source (Tape.blank (n + d)) := by
  unfold start widen
  simp only [Tape.blank_widen]

theorem Invariant.stepN {source : Bytes} {n : Nat} (h : m.Invariant source n) (k : Nat) :
    (m.stepN k).Invariant source n := by
  induction k generalizing m with
  | zero => exact h
  | succ k ih => exact ih h.step

end Machine

/-- **The tape size is irrelevant to a run that does not wrap.** Load a program on two tapes, the
second at least as long as the first. If none of `k` steps on the first executes a move over an end
of the tape, then `k` steps on the second lead to the same position, output, count of steps, status,
halt reason and pointer; the cells of the first come first on the second tape and zeros follow; and
the results and faults of all `k` steps are the same but for these zeros. -/
theorem tape_size_irrelevant (source : Bytes) {n n' : Nat} (hsize : n ≤ n') (k : Nat) :
    ∃ m m', Machine.load? source ((n + 1 : Nat) : Int) = .ok m ∧
      Machine.load? source ((n' + 1 : Nat) : Int) = .ok m' ∧
      ((∀ j < k, ¬ (m.stepN j).Wraps) →
        (m'.stepN k).index = (m.stepN k).index ∧
        (m'.stepN k).output = (m.stepN k).output ∧
        (m'.stepN k).steps = (m.stepN k).steps ∧
        (m'.stepN k).status = (m.stepN k).status ∧
        (m'.stepN k).halt? = (m.stepN k).halt? ∧
        (m'.stepN k).tape.pointer = (m.stepN k).tape.pointer ∧
        (m.stepN k).tape.cells.size = n + 1 ∧
        (m'.stepN k).tape.cells.toList =
          (m.stepN k).tape.cells.toList ++ List.replicate (n' - n) 0 ∧
        (m'.trace k).map Stepped.answer =
          (m.trace k).map fun s => (s.result.widen (n' - n), s.fault)) := by
  obtain ⟨d, rfl⟩ := Nat.exists_eq_add_of_le hsize
  refine ⟨_, _, Machine.load?_succ source n, Machine.load?_succ source (n + d), fun hw => ?_⟩
  have hinv := (Machine.Invariant.start source n).stepN k
  rw [← Machine.start_widen source n d, Machine.stepN_widen d hw, Machine.trace_widen d hw,
    Nat.add_sub_cancel_left]
  refine ⟨rfl, rfl, rfl, rfl, rfl, rfl, hinv.size_eq, Tape.toList_cells_widen _ d, ?_⟩
  rw [List.map_map]
  rfl

/-- A loop that moves a cell to its right neighbour, on two cells and on four: the run uses both
ends of the short tape and goes over neither. -/
theorem tape_size_irrelevant_loop :
    let source : Bytes := [0x2B, 0x5B, 0x3E, 0x2B, 0x3C, 0x2D, 0x5D, 0x3E, 0x2E]
    ∃ m m', Machine.load? source 2 = .ok m ∧ Machine.load? source 4 = .ok m' ∧
      (∀ j < 10, ¬ (m.stepN j).Wraps) ∧ (m.stepN 10).tape.pointer = 1 ∧
      (m'.stepN 10).tape.pointer = 1 ∧ (m'.stepN 10).output = (m.stepN 10).output ∧
      (m'.stepN 10).tape.cells.toList = [0, 1, 0, 0] := by
  intro source
  obtain ⟨m, m', hm, hm', hrun⟩ := @tape_size_irrelevant source 1 3 (by decide) 10
  obtain rfl : Machine.start source (Tape.blank 1) = m := Except.ok.inj hm
  obtain rfl : Machine.start source (Tape.blank 3) = m' := Except.ok.inj hm'
  have hw : ∀ j < 10, ¬ ((Machine.start source (Tape.blank 1)).stepN j).Wraps := by decide +kernel
  obtain ⟨-, houtput, -, -, -, hpointer, -, hcells, -⟩ := hrun hw
  have hpointer₁ : ((Machine.start source (Tape.blank 1)).stepN 10).tape.pointer = 1 := by
    decide +kernel
  exact ⟨_, _, hm, hm', hw, hpointer₁, hpointer.trans hpointer₁, houtput,
    hcells.trans (by decide +kernel)⟩

end TapeDeck
