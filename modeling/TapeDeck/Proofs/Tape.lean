import TapeDeck.Tape
import Mathlib.Data.Int.ModEq

/-!
# The tape in closed form

A tape is changed by four operations. Two of them move the pointer and two change the cell under
it, so what a sequence of operations does to a cell depends on where the moves have left the pointer
each time. `Tape.performed` lists each operation together with that place.

`netMove` is the number of moves to the right less the moves to the left. `netChange` is the number
of increments less the decrements that were performed at one cell. They are the whole effect of a
sequence: the pointer is moved by the first modulo the size (`Tape.pointer_run`), each cell is
changed by the second modulo 256 (`Tape.getElem?_run`), hence two sequences leave equal tapes
exactly when their net moves agree modulo the size and their net changes modulo 256
(`Tape.run_eq_run_iff`). A full turn of the pointer, or of one cell, has no net effect.

**`tape_closed_form`** says all this of the zero tape of every size.
-/

namespace TapeDeck

/-- What can be done to a tape. -/
inductive TapeOp where
  | moveRight
  | moveLeft
  | increment
  | decrement
  deriving DecidableEq, Repr

namespace TapeOp

/-- The operation that takes it back. -/
def inverse : TapeOp → TapeOp
  | moveRight => moveLeft
  | moveLeft => moveRight
  | increment => decrement
  | decrement => increment

/-- The number of cells by which the pointer goes up. -/
def move : TapeOp → Int
  | moveRight => 1
  | moveLeft => -1
  | increment | decrement => 0

/-- The number by which the cell under the pointer grows. -/
def change : TapeOp → Int
  | moveRight | moveLeft => 0
  | increment => 1
  | decrement => -1

theorem move_inverse (op : TapeOp) : op.inverse.move = -op.move := by
  cases op <;> rfl

theorem change_inverse (op : TapeOp) : op.inverse.change = -op.change := by
  cases op <;> rfl

/-- An operation moves the pointer or changes a cell, never both. -/
theorem move_eq_zero_or_change_eq_zero (op : TapeOp) : op.move = 0 ∨ op.change = 0 := by
  cases op
  · exact .inr rfl
  · exact .inr rfl
  · exact .inl rfl
  · exact .inl rfl

end TapeOp

/-- The moves to the right less the moves to the left. -/
def netMove (ops : List TapeOp) : Int :=
  ops.count .moveRight - ops.count .moveLeft

@[simp]
theorem netMove_nil : netMove [] = 0 := rfl

@[simp]
theorem netMove_cons (op : TapeOp) (ops : List TapeOp) :
    netMove (op :: ops) = op.move + netMove ops := by
  cases op <;> simp [netMove, TapeOp.move] <;> omega

theorem netMove_replicate (k : Nat) (op : TapeOp) :
    netMove (List.replicate k op) = k * op.move := by
  induction k with
  | zero => simp
  | succ k ih =>
    rw [List.replicate_succ, netMove_cons, ih, Nat.cast_succ, add_one_mul, add_comm]

namespace Tape

/-- Perform an operation. -/
def apply (t : Tape) : TapeOp → Tape
  | .moveRight => t.moveRight
  | .moveLeft => t.moveLeft
  | .increment => t.increment
  | .decrement => t.decrement

/-- Perform operations one after another. -/
def run (t : Tape) (ops : List TapeOp) : Tape :=
  ops.foldl apply t

/-- Each operation with the place of the pointer when it is performed. -/
def performed (t : Tape) : List TapeOp → List (Nat × TapeOp)
  | [] => []
  | op :: ops => (t.pointer, op) :: (t.apply op).performed ops

/-- The increments less the decrements that are performed at cell `i`. -/
def netChange (t : Tape) (ops : List TapeOp) (i : Nat) : Int :=
  (t.performed ops).count (i, .increment) - (t.performed ops).count (i, .decrement)

variable (t : Tape)

@[simp]
theorem run_nil : t.run [] = t := rfl

@[simp]
theorem run_cons (op : TapeOp) (ops : List TapeOp) : t.run (op :: ops) = (t.apply op).run ops := rfl

@[simp]
theorem netChange_nil (i : Nat) : t.netChange [] i = 0 := rfl

@[simp]
theorem netChange_cons (op : TapeOp) (ops : List TapeOp) (i : Nat) :
    t.netChange (op :: ops) i =
      (if i = t.pointer then op.change else 0) + (t.apply op).netChange ops i := by
  by_cases h : i = t.pointer
  · subst h
    cases op <;> simp [netChange, performed, TapeOp.change] <;> omega
  · simp [netChange, performed, h, Ne.symm h]

/-! ## One operation -/

@[simp]
theorem size_apply (op : TapeOp) : (t.apply op).size = t.size := by
  cases op <;> simp [apply, size, moveRight, moveLeft, increment, decrement, write]

theorem pointer_apply (op : TapeOp) :
    ((t.apply op).pointer : Int) = (t.pointer + op.move) % t.size := by
  have hlt : t.pointer < t.size := t.pointer_lt
  cases op with
  | moveRight =>
    simp only [apply, moveRight, TapeOp.move]
    push_cast
    rfl
  | moveLeft =>
    -- one back is all the way round but one
    have hback : ((t.pointer + (t.size - 1) : Nat) : Int) = t.pointer + -1 + t.size := by
      omega
    simp only [apply, moveLeft, TapeOp.move]
    rw [Int.natCast_mod, hback, Int.add_emod_right]
  | increment | decrement =>
    simp only [apply, increment, decrement, write, TapeOp.move]
    rw [Int.emod_eq_of_lt] <;> omega

theorem getElem?_write (v : UInt8) (i : Nat) :
    (t.write v).cells[i]? = if i = t.pointer then some v else t.cells[i]? := by
  rw [write, Array.getElem?_set]
  simp only [eq_comm]

theorem getElem?_pointer : t.cells[t.pointer]? = some t.read :=
  Array.getElem?_eq_getElem t.pointer_lt

theorem map_add_ofInt_zero (c : Option UInt8) : c.map (· + UInt8.ofInt 0) = c := by
  have hzero : UInt8.ofInt 0 = 0 := rfl
  simp [hzero]

theorem getElem?_apply (op : TapeOp) (i : Nat) :
    (t.apply op).cells[i]? =
      t.cells[i]?.map (· + UInt8.ofInt (if i = t.pointer then op.change else 0)) := by
  cases op with
  | moveRight | moveLeft =>
    simp only [apply, moveRight, moveLeft, TapeOp.change, ite_self, map_add_ofInt_zero]
  | increment | decrement =>
    simp only [apply, increment, decrement, TapeOp.change]
    rw [getElem?_write]
    by_cases h : i = t.pointer
    · rw [if_pos h, if_pos h, h, getElem?_pointer]
      simp [UInt8.sub_eq_add_neg]
    · rw [if_neg h, if_neg h, map_add_ofInt_zero]

/-- The change that the next operation makes is made where this one was performed: a move has no
change to make, and what changes a cell does not move. -/
theorem change_at_next (op : TapeOp) (i : Nat) (k : Int) :
    (if i = (t.apply op).pointer then k * op.change else 0) =
      if i = t.pointer then k * op.change else 0 := by
  obtain hmove | hchange := op.move_eq_zero_or_change_eq_zero
  · have hlt : t.pointer < t.size := t.pointer_lt
    have hstays := t.pointer_apply op
    rw [hmove, add_zero, Int.emod_eq_of_lt (by omega) (by omega)] at hstays
    rw [Int.ofNat_inj.mp hstays]
  · rw [hchange, mul_zero, ite_self, ite_self]

/-! ## Sequences of operations -/

@[simp]
theorem size_run (ops : List TapeOp) : (t.run ops).size = t.size := by
  induction ops generalizing t with
  | nil => rfl
  | cons op ops ih => rw [run_cons, ih, size_apply]

/-- The operations are performed in order, each where those before it have left the pointer. -/
theorem getElem?_performed (ops : List TapeOp) (k : Nat) :
    (t.performed ops)[k]? = ops[k]?.map fun op => ((t.run (ops.take k)).pointer, op) := by
  induction ops generalizing t k with
  | nil => rfl
  | cons op ops ih =>
    cases k with
    | zero => rfl
    | succ k => exact ih (t.apply op) k

/-- **The pointer goes by the net move.** -/
theorem pointer_run (ops : List TapeOp) :
    ((t.run ops).pointer : Int) = (t.pointer + netMove ops) % t.size := by
  induction ops generalizing t with
  | nil =>
    have hlt : t.pointer < t.size := t.pointer_lt
    rw [run_nil, netMove_nil, add_zero, Int.emod_eq_of_lt (by omega) (by omega)]
  | cons op ops ih =>
    rw [run_cons, ih, size_apply, pointer_apply, Int.emod_add_emod, netMove_cons, add_assoc]

/-- **A cell grows by the net change made at it.** -/
theorem getElem?_run (ops : List TapeOp) (i : Nat) :
    (t.run ops).cells[i]? = t.cells[i]?.map (· + UInt8.ofInt (t.netChange ops i)) := by
  induction ops generalizing t with
  | nil => exact (map_add_ofInt_zero _).symm
  | cons op ops ih =>
    rw [run_cons, ih, getElem?_apply, Option.map_map, netChange_cons, UInt8.ofInt_add]
    simp only [Function.comp_def, UInt8.add_assoc]

theorem toNat_ofInt (x : Int) : ((UInt8.ofInt x).toNat : Int) = x % 256 := by
  have hrange := Int.emod_nonneg x (by decide : (2 : Int) ^ 8 ≠ 0)
  rw [UInt8.ofInt, UInt8.toNat_ofNat']
  omega

theorem ofInt_eq_ofInt_iff {x y : Int} : UInt8.ofInt x = UInt8.ofInt y ↔ x ≡ y [ZMOD 256] := by
  rw [← UInt8.toNat_inj, ← Int.ofNat_inj, toNat_ofInt, toNat_ofInt]
  rfl

theorem eq_iff_getElem? {t t' : Tape} :
    t = t' ↔ t.pointer = t'.pointer ∧ ∀ i : Nat, t.cells[i]? = t'.cells[i]? := by
  constructor
  · rintro rfl
    exact ⟨rfl, fun _ => rfl⟩
  · rintro ⟨hpointer, hcells⟩
    ext1
    · exact Array.ext_getElem? hcells
    · exact hpointer

/-- **The net move and the net changes are the whole effect of a sequence.** -/
theorem run_eq_run_iff (ops ops' : List TapeOp) :
    t.run ops = t.run ops' ↔ netMove ops ≡ netMove ops' [ZMOD t.size] ∧
      ∀ i < t.size, t.netChange ops i ≡ t.netChange ops' i [ZMOD 256] := by
  have hpointer : (t.run ops).pointer = (t.run ops').pointer ↔
      netMove ops ≡ netMove ops' [ZMOD t.size] := by
    rw [← Int.ofNat_inj, pointer_run, pointer_run]
    exact ⟨Int.ModEq.add_left_cancel' _, Int.ModEq.add_left _⟩
  have hcell (i : Nat) (hi : i < t.size) :
      (t.run ops).cells[i]? = (t.run ops').cells[i]? ↔
        t.netChange ops i ≡ t.netChange ops' i [ZMOD 256] := by
    rw [getElem?_run, getElem?_run, Array.getElem?_eq_getElem hi, Option.map_some,
      Option.map_some, Option.some_inj, UInt8.add_right_inj, ofInt_eq_ofInt_iff]
  have hbeyond (i : Nat) (hi : t.size ≤ i) : (t.run ops).cells[i]? = (t.run ops').cells[i]? := by
    rw [getElem?_run, getElem?_run, Array.getElem?_eq_none hi]
    rfl
  rw [eq_iff_getElem?, hpointer]
  refine and_congr_right fun _ => ⟨fun h i hi => (hcell i hi).mp (h i), fun h i => ?_⟩
  obtain hi | hi := Nat.lt_or_ge i t.size
  · exact (hcell i hi).mpr (h i hi)
  · exact hbeyond i hi

/-- Operations without a net effect leave the tape as it was. -/
theorem run_eq_self {ops : List TapeOp} (hmove : netMove ops ≡ 0 [ZMOD t.size])
    (hchange : ∀ i, t.netChange ops i ≡ 0 [ZMOD 256]) : t.run ops = t :=
  (t.run_eq_run_iff ops []).mpr ⟨hmove, fun i _ => hchange i⟩

/-! ## Turns -/

theorem netChange_replicate (k : Nat) (op : TapeOp) (i : Nat) :
    t.netChange (List.replicate k op) i = if i = t.pointer then k * op.change else 0 := by
  induction k generalizing t with
  | zero => simp
  | succ k ih =>
    rw [List.replicate_succ, netChange_cons, ih, change_at_next]
    split
    · rw [Nat.cast_succ, add_one_mul, add_comm]
    · rfl

/-- Equal operations in a row restore the tape when they make whole turns. -/
theorem run_replicate {k : Nat} {op : TapeOp} (hmove : (t.size : Int) ∣ k * op.move)
    (hchange : 256 ∣ k * op.change) : t.run (List.replicate k op) = t := by
  refine t.run_eq_self ?_ fun i => ?_
  · rw [netMove_replicate]
    exact Int.modEq_zero_iff_dvd.mpr hmove
  · rw [netChange_replicate]
    split
    · exact Int.modEq_zero_iff_dvd.mpr hchange
    · rfl

theorem run_inverse (op : TapeOp) : t.run [op, op.inverse] = t := by
  have hmove : netMove [op, op.inverse] = 0 := by
    simp [TapeOp.move_inverse]
  have hchange (i : Nat) : t.netChange [op, op.inverse] i = 0 := by
    have hnext := t.change_at_next op i (-1)
    simp only [netChange_cons, netChange_nil, TapeOp.change_inverse, add_zero]
    rw [← neg_one_mul, hnext]
    split <;> omega
  refine t.run_eq_self ?_ fun i => ?_
  · rw [hmove]
  · rw [hchange]

end Tape

/-- **The tape in closed form.** On a zero tape of any size, whatever operations have been
performed: the pointer is the net number of moves to the right modulo the size, and each cell is the
net number of increments performed at it modulo 256. Hence as many equal moves as there are cells,
or 256 equal changes, restore the tape, an operation is taken back by its inverse, and two sequences
leave equal tapes exactly when they make the same net move and the same net changes. -/
theorem tape_closed_form (n : Nat) :
    ∃ t₀, Tape.blank? ((n + 1 : Nat) : Int) = .ok t₀ ∧ ∀ ops,
      let t := t₀.run ops
      t.cells.size = n + 1 ∧
      (t.pointer : Int) = (ops.count .moveRight - ops.count .moveLeft : Int) % (n + 1 : Nat) ∧
      (∀ i < n + 1, ∃ c, t.cells[i]? = some c ∧
        (c.toNat : Int) = ((t₀.performed ops).count (i, .increment) -
          (t₀.performed ops).count (i, .decrement) : Int) % 256) ∧
      (∀ k, (t₀.performed ops)[k]? =
        ops[k]?.map fun op => ((t₀.run (ops.take k)).pointer, op)) ∧
      t.run (List.replicate (n + 1) .moveRight) = t ∧
      t.run (List.replicate (n + 1) .moveLeft) = t ∧
      t.run (List.replicate 256 .increment) = t ∧
      t.run (List.replicate 256 .decrement) = t ∧
      (∀ op : TapeOp, t.run [op, op.inverse] = t) ∧
      ∀ ops', t = t₀.run ops' ↔ netMove ops ≡ netMove ops' [ZMOD (n + 1 : Nat)] ∧
        ∀ i < n + 1, t₀.netChange ops i ≡ t₀.netChange ops' i [ZMOD 256] := by
  refine ⟨Tape.blank n, rfl, fun ops => ?_⟩
  have hsize : (Tape.blank n).size = n + 1 := by simp [Tape.blank, Tape.size]
  intro t
  have ht : t.size = n + 1 := ((Tape.blank n).size_run ops).trans hsize
  refine ⟨ht, ?_, fun i hi => ?_, (Tape.blank n).getElem?_performed ops, ?_, ?_, ?_, ?_,
    t.run_inverse, fun ops' => ?_⟩
  · have hpointer := (Tape.blank n).pointer_run ops
    rw [hsize] at hpointer
    rw [hpointer]
    simp [Tape.blank, netMove]
  · have hcell : (Tape.blank n).cells[i]? = some 0 := by
      simp [Tape.blank, hi]
    refine ⟨UInt8.ofInt ((Tape.blank n).netChange ops i), ?_, Tape.toNat_ofInt _⟩
    rw [Tape.getElem?_run, hcell, Option.map_some, UInt8.zero_add]
  · exact t.run_replicate (by simp [ht, TapeOp.move]) (by simp [TapeOp.change])
  · exact t.run_replicate (by rw [ht]; exact dvd_mul_right _ _) (by simp [TapeOp.change])
  · exact t.run_replicate (by simp [TapeOp.move]) (by simp [TapeOp.change])
  · exact t.run_replicate (by simp [TapeOp.move]) (by simp [TapeOp.change])
  · rw [← hsize]
    exact (Tape.blank n).run_eq_run_iff ops ops'

end TapeDeck
