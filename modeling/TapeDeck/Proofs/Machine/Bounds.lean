import TapeDeck.Machine.Report
import TapeDeck.Proofs.Machine.Step

/-!
# Reads stay inside the program and the tape

The functions of this module are the scans, the step and the current command once more, with every
read of the program and of the tape checked: a read of a position that is not there has no answer.
A test of the position is made only where the machine makes one, so the backward scan, which never
looks at the length of the program, trusts the position it starts from.

**`Machine.stepWithin_eq`**: a machine whose position is not beyond the end of its program makes the
same step with checked reads. The scans and the current command are alike.
-/

namespace TapeDeck

/-! ## Scans -/

/-- `findClose` with checked reads. -/
def findCloseWithin (code : Code) (depth i : Nat) : Option (Option Nat) :=
  if i < code.size then
    match code[i]? with
    | none => none
    | some b =>
      if b = openByte then
        findCloseWithin code (depth + 1) (i + 1)
      else if b = closeByte then
        match depth with
        | 0 => some (some i)
        | d + 1 => findCloseWithin code d (i + 1)
      else
        findCloseWithin code depth (i + 1)
  else
    some none
termination_by code.size - i

/-- `findOpen` with checked reads. -/
def findOpenWithin (code : Code) (depth : Nat) : Nat → Option (Option Nat)
  | 0 => some none
  | i + 1 =>
    match code[i]? with
    | none => none
    | some b =>
      if b = closeByte then
        findOpenWithin code (depth + 1) i
      else if b = openByte then
        match depth with
        | 0 => some (some i)
        | d + 1 => findOpenWithin code d i
      else
        findOpenWithin code depth i

theorem findCloseWithin_of_lt {code : Code} {i : Nat} (d : Nat) (hi : i < code.size) :
    findCloseWithin code d i =
      if code[i] = openByte then findCloseWithin code (d + 1) (i + 1)
      else if code[i] = closeByte then
        match d with
        | 0 => some (some i)
        | d + 1 => findCloseWithin code d (i + 1)
      else findCloseWithin code d (i + 1) := by
  rw [findCloseWithin.eq_def, if_pos hi, Array.getElem?_eq_getElem hi]

/-- The forward scan reads only what is there: it looks at the length before each read. -/
theorem findCloseWithin_eq (code : Code) (d i : Nat) :
    findCloseWithin code d i = some (findClose code d i) := by
  fun_induction findClose code d i with
  | case1 d i hi hb ih => rw [findCloseWithin_of_lt d hi, if_pos hb, ih]
  | case2 i hi ho hc => rw [findCloseWithin_of_lt 0 hi, if_neg ho, if_pos hc]
  | case3 i hi ho hc d ih =>
    rw [findCloseWithin_of_lt (d + 1) hi, if_neg ho, if_pos hc]
    exact ih
  | case4 d i hi ho hc ih => rw [findCloseWithin_of_lt d hi, if_neg ho, if_neg hc, ih]
  | case5 d i hi => rw [findCloseWithin.eq_def, if_neg hi]

theorem findOpenWithin_succ {code : Code} {i : Nat} (d : Nat) (hi : i < code.size) :
    findOpenWithin code d (i + 1) =
      if code[i] = closeByte then findOpenWithin code (d + 1) i
      else if code[i] = openByte then
        match d with
        | 0 => some (some i)
        | d + 1 => findOpenWithin code d i
      else findOpenWithin code d i := by
  rw [findOpenWithin.eq_def]
  simp only [Array.getElem?_eq_getElem hi]

/-- The backward scan reads only what is there, if it starts no further than the end. -/
theorem findOpenWithin_eq {code : Code} {i : Nat} (d : Nat) (h : i ≤ code.size) :
    findOpenWithin code d i = some (findOpen code d i) := by
  induction i generalizing d with
  | zero => rfl
  | succ i ih =>
    -- the scan reads `i` without a test; that `i` is inside comes from where it started
    have hi : i ≤ code.size := by omega
    rw [findOpenWithin_succ d h, findOpen_succ, Array.getElem?_eq_getElem h]
    simp only [Option.some.injEq]
    split_ifs with hc ho
    · exact ih (d + 1) hi
    · cases d with
      | zero => rfl
      | succ d => exact ih d hi
    · exact ih d hi

/-! ## The machine -/

namespace Machine

/-- `execute` with checked reads. No byte acts on a cell other than the one at the pointer. -/
def executeWithin (m : Machine) (b : UInt8) : Option Stepped :=
  match m.tape.cells[m.tape.pointer]? with
  | none => none
  | some v =>
    match Command.ofByte? b with
    | some .loopOpen =>
      if v = 0 then
        (findCloseWithin m.code 0 (m.index + 1)).map fun j => m.jump b j (.noClose m.index)
      else some (m.move b id)
    | some .loopClose =>
      if v = 0 then some (m.move b id)
      else (findOpenWithin m.code 0 m.index).map fun j => m.jump b j (.noOpen m.index)
    | _ => some (m.execute b)

/-- `step` with checked reads. -/
def stepWithin (m : Machine) : Option Stepped :=
  if m.isHalted then some m.rest
  else if m.code.size ≤ m.index then some (m.stop .finished).rest
  else
    match m.code[m.index]? with
    | none => none
    | some b => { m with status := m.status.begin }.executeWithin b

/-- `currentCommand` with checked reads. -/
def currentCommandWithin (m : Machine) : Option String :=
  if m.code.size ≤ m.index then some "<end>"
  else m.code[m.index]?.map fun b => (byteChar b).toString

theorem executeWithin_eq {m : Machine} (h : m.index ≤ m.code.size) (b : UInt8) :
    m.executeWithin b = some (m.execute b) := by
  have hcell : m.tape.cells[m.tape.pointer]? = some m.tape.read :=
    Array.getElem?_eq_getElem m.tape.pointer_lt
  unfold executeWithin
  rw [hcell, findCloseWithin_eq, findOpenWithin_eq 0 h]
  cases hc : Command.ofByte? b with
  | none => rfl
  | some c =>
    cases c with
    | loopOpen =>
      simp only [execute, hc, closeOf?, Option.map_some]
      split_ifs <;> rfl
    | loopClose =>
      simp only [execute, hc, openOf?, Option.map_some]
      split_ifs <;> rfl
    | right => rfl
    | left => rfl
    | increment => rfl
    | decrement => rfl
    | output => rfl

/-- **Steps read only what is there.** -/
theorem stepWithin_eq {m : Machine} (h : m.index ≤ m.code.size) : m.stepWithin = some m.step := by
  unfold stepWithin step
  by_cases hl : m.isHalted = true
  · rw [if_pos hl, if_pos hl]
  · rw [if_neg hl, if_neg hl]
    by_cases he : m.code.size ≤ m.index
    · rw [if_pos he, Array.getElem?_eq_none he]
    · rw [if_neg he, Array.getElem?_eq_getElem (by omega)]
      exact executeWithin_eq (m := { m with status := m.status.begin }) h _

theorem currentCommandWithin_eq (m : Machine) :
    m.currentCommandWithin = some m.currentCommand := by
  unfold currentCommandWithin currentCommand
  by_cases he : m.code.size ≤ m.index
  · rw [if_pos he, Array.getElem?_eq_none he]
  · rw [if_neg he, Array.getElem?_eq_getElem (by omega)]
    rfl

end Machine

end TapeDeck
