/-!
# The tape

A fixed number of byte cells on a ring, and a pointer to one of them. Both the pointer and the
cells wrap, so no operation can fail: `pointer_lt` says that the pointer is always on the tape,
hence a tape has at least one cell (`Tape.size_pos`). `Tape.blank?` is the only way to make one
from a size, and refuses a size below one (`Tape.blank?_eq_error_iff`).
-/

namespace TapeDeck

/-- A requested tape size that is not positive. -/
structure InvalidTapeSize where
  size : Int
  deriving DecidableEq, Repr

/-- The wording of a refused tape size. -/
def InvalidTapeSize.message (e : InvalidTapeSize) : String :=
  "invalid tape size: " ++ toString e.size

/-- Byte cells on a ring, and a pointer to one of them. -/
@[ext]
structure Tape where
  cells : Array UInt8
  pointer : Nat
  pointer_lt : pointer < cells.size

namespace Tape

/-- The number of cells when no other is asked for. -/
def defaultSize : Int := 10

/-- The number of cells. -/
def size (t : Tape) : Nat := t.cells.size

theorem size_pos (t : Tape) : 0 < t.size :=
  Nat.lt_of_le_of_lt (Nat.zero_le _) t.pointer_lt

/-- A tape of `n + 1` zero cells with the pointer at the first. -/
def blank (n : Nat) : Tape where
  cells := Array.replicate (n + 1) 0
  pointer := 0
  pointer_lt := by simp

/-- A zero tape of the requested size, which has to be positive. -/
def blank? (size : Int) : Except InvalidTapeSize Tape :=
  match size with
  | .ofNat (n + 1) => .ok (blank n)
  | _ => .error ⟨size⟩

theorem blank?_eq_error_iff (size : Int) : blank? size = .error ⟨size⟩ ↔ size ≤ 0 := by
  match size with
  | .ofNat 0 => simp [blank?]
  | .ofNat (n + 1) => simp [blank?]
  | .negSucc n => simp [blank?]; omega

/-- The cell under the pointer. -/
def read (t : Tape) : UInt8 :=
  have := t.pointer_lt
  t.cells[t.pointer]

/-- Replace the cell under the pointer. -/
def write (t : Tape) (v : UInt8) : Tape where
  cells := t.cells.set t.pointer v t.pointer_lt
  pointer := t.pointer
  pointer_lt := by simpa using t.pointer_lt

/-- Move the pointer one cell up, from the last to the first. -/
def moveRight (t : Tape) : Tape where
  cells := t.cells
  pointer := (t.pointer + 1) % t.size
  pointer_lt := Nat.mod_lt _ t.size_pos

/-- Move the pointer one cell down, from the first to the last. -/
def moveLeft (t : Tape) : Tape where
  cells := t.cells
  pointer := (t.pointer + (t.size - 1)) % t.size
  pointer_lt := Nat.mod_lt _ t.size_pos

/-- Add one to the current cell, modulo 256. -/
def increment (t : Tape) : Tape := t.write (t.read + 1)

/-- Subtract one from the current cell, modulo 256. -/
def decrement (t : Tape) : Tape := t.write (t.read - 1)

end Tape

end TapeDeck
