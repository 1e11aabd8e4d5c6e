import TapeDeck.Proofs.CommandLine.Headless
import TapeDeck.Proofs.Text.CharBytes
import TapeDeck.Proofs.Text.Column
import Mathlib.Data.List.Basic

/-!
# A trace read back

A trace has a line for every byte that was executed: its position, the byte itself as a character,
and the pointer and all cells after it. `TraceRow.read?` takes a line from the beginning of a text,
field by field, and knows nothing of what has printed it; `readTrace?` takes as many lines as it is
told.

The byte of a line may be a line end, and what is printed after a trace may look like one. So the
text is not cut at its line ends first: every field ends where the next one begins, and a line with
the bracket that closes its cells. What follows a line is left as it is (`TraceRow.read?_traceLine`),
and then what follows a trace is too (`readTrace?_append`).
-/

namespace TapeDeck

/-! ## Cells -/

/-- Read a number that is the value of a cell. -/
def readCell? (word : List Char) : Option UInt8 := do
  byteOf? (← Text.readWhole? word)

/-- Read the values of cells with a space between them. -/
def readCells? (field : List Char) : Option (List UInt8) :=
  (field.splitOn ' ').mapM readCell?

/-- The values of cells with a space between them. -/
def cellsField (cells : List UInt8) : List Char :=
  [' '].intercalate (cells.map fun v => Nat.toDigits 10 v.toNat)

/-- The values of cells are made of spaces and digits. -/
theorem mem_cellsField {cells : List UInt8} {c : Char} (h : c ∈ cellsField cells) :
    c = ' ' ∨ c.isDigit = true := by
  induction cells with
  | nil => simp [cellsField] at h
  | cons v cells ih =>
    cases cells with
    | nil =>
      rw [cellsField, List.map_singleton, List.intercalate_singleton] at h
      exact .inr (Text.isDigit_of_mem_toDigits h)
    | cons w cells =>
      have hcons : cellsField (v :: w :: cells) =
          Nat.toDigits 10 v.toNat ++ [' '] ++ cellsField (w :: cells) :=
        List.intercalate_cons_cons
      rw [hcons, List.mem_append, List.mem_append, List.mem_singleton] at h
      rcases h with (h | h) | h
      · exact .inr (Text.isDigit_of_mem_toDigits h)
      · exact .inl h
      · exact ih h

theorem splitOn_cellsField {cells : List UInt8} (h : cells ≠ []) :
    (cellsField cells).splitOn ' ' = cells.map fun v => Nat.toDigits 10 v.toNat := by
  refine List.splitOn_intercalate ' ' ?_ (by simpa using h)
  intro word hword hspace
  obtain ⟨v, -, rfl⟩ := List.mem_map.mp hword
  exact Text.notMem_toDigits rfl v.toNat hspace

/-- **The values of cells come back**, provided that there is a cell. -/
theorem readCells?_cellsField {cells : List UInt8} (h : cells ≠ []) :
    readCells? (cellsField cells) = some cells := by
  have hword (v : UInt8) : readCell? (Nat.toDigits 10 v.toNat) = some v := by
    simp [readCell?, Text.readWhole?_toDigits, byteOf?_toNat]
  have hwords : ∀ vs : List UInt8,
      (vs.map fun v => Nat.toDigits 10 v.toNat).mapM readCell? = some vs := by
    intro vs
    induction vs with
    | nil => rfl
    | cons v vs ih => simp only [List.map_cons, List.mapM_cons, hword, ih]; rfl
  rw [readCells?, splitOn_cellsField h, hwords]

/-! ## Lines -/

/-- What a line of a trace says: the position of the byte that was executed, the byte, and the
pointer and the cells after it. -/
structure TraceRow where
  index : Nat
  command : UInt8
  pointer : Nat
  cells : List UInt8
  deriving DecidableEq, Repr

/-- What a step has to say in a trace, if it executed anything. -/
def StepReport.traceRow? (r : StepReport) : Option TraceRow :=
  r.command.map fun b => ⟨r.index, b, r.tape.pointer, r.tape.cells.toList⟩

namespace TraceRow

/-- Take a line apart: the position in its column, the character of the byte, the pointer, and the
cells between brackets. What follows the line is left. -/
def read? (text : List Char) : Option (TraceRow × List Char) := do
  let (index, rest) ← Text.readColumn? text
  match (← rest.dropPrefix? [' ']) with
  | [] => none
  | c :: rest =>
    let (pointer, rest) ← Text.readNumber? (← rest.dropPrefix? [' ', 'p', 't', 'r', '='])
    let rest ← rest.dropPrefix? [' ', 'c', 'e', 'l', 'l', 's', '=', '[']
    let cells ← readCells? (rest.takeWhile (· != ']'))
    let rest ← (rest.dropWhile (· != ']')).dropPrefix? [']', '\n']
    some (⟨index, ← byteOf? c.toNat, pointer, cells⟩, rest)

end TraceRow

/-- The text of a line, in the fields in which it is read. -/
theorem toList_traceLine (r : StepReport) (b : UInt8) :
    (traceLine r b).toList =
      (Text.column 5 r.index).toList ++ ([' ', byteChar b] ++ ([' ', 'p', 't', 'r', '='] ++
        (Nat.toDigits 10 r.tape.pointer ++ ([' ', 'c', 'e', 'l', 'l', 's', '=', '['] ++
          (cellsField r.tape.cells.toList ++ [']', '\n']))))) := by
  simp [traceLine, Tape.cellsText, cellsField, String.toList_intercalate, Function.comp_def]

/-- **A line says which step it shows**, and what follows it is left. -/
theorem TraceRow.read?_traceLine (r : StepReport) (b : UInt8) (rest : List Char) :
    read? ((traceLine r b).toList ++ rest) =
      some (⟨r.index, b, r.tape.pointer, r.tape.cells.toList⟩, rest) := by
  have hnumber (rest : List Char) : Text.NoDigitNext (' ' :: rest) :=
    Text.noDigitNext_cons rfl rest
  have hcells : r.tape.cells.toList ≠ [] := by
    have hpos : 0 < r.tape.cells.size := r.tape.size_pos
    rw [← List.length_pos_iff, Array.length_toList]
    exact hpos
  -- no bracket stands inside the cells
  have hfield : ∀ c ∈ cellsField r.tape.cells.toList, (c != ']') = true := by
    intro c hc
    rw [bne_iff_ne]
    rintro rfl
    exact absurd (mem_cellsField hc) (by decide)
  simp [read?, toList_traceLine, Text.readColumn?_column _ _ (hnumber _), List.dropPrefix?,
    Text.readNumber?_toDigits _ (hnumber _), List.takeWhile_append_of_pos hfield,
    List.dropWhile_append_of_pos hfield, readCells?_cellsField hcells, Utf8.toNat_byteChar,
    byteOf?_toNat]

example : TraceRow.read? "   12 ] ptr=1 cells=[255 0]\nrest".toList =
    some (⟨12, 0x5D, 1, [255, 0]⟩, "rest".toList) := by decide

/-! ## Traces -/

/-- Read so many lines from the beginning of a text. -/
def readTrace? : Nat → List Char → Option (List TraceRow × List Char)
  | 0, text => some ([], text)
  | count + 1, text => do
    let (row, rest) ← TraceRow.read? text
    let (rows, rest) ← readTrace? count rest
    some (row :: rows, rest)

/-- **The lines of steps read back as these steps**, and what follows them is left. -/
theorem readTrace?_append (rs : List StepReport) (rest : List Char) :
    readTrace? (rs.filterMap StepReport.traceRow?).length
        ((String.join (rs.filterMap StepReport.traceLine?)).toList ++ rest) =
      some (rs.filterMap StepReport.traceRow?, rest) := by
  rw [String.toList_join]
  induction rs with
  | nil => rfl
  | cons r rs ih =>
    cases hb : r.command with
    | none =>
      -- a step that executed nothing has no line
      have hrow : r.traceRow? = none := by rw [StepReport.traceRow?, hb]; rfl
      have hline : r.traceLine? = none := by rw [StepReport.traceLine?, hb]; rfl
      rw [List.filterMap_cons_none hrow, List.filterMap_cons_none hline, ih]
    | some b =>
      have hrow : r.traceRow? = some ⟨r.index, b, r.tape.pointer, r.tape.cells.toList⟩ := by
        rw [StepReport.traceRow?, hb]; rfl
      have hline : r.traceLine? = some (traceLine r b) := by rw [StepReport.traceLine?, hb]; rfl
      rw [List.filterMap_cons_some hrow, List.filterMap_cons_some hline, List.length_cons,
        List.flatMap_cons, List.append_assoc]
      simp [readTrace?, TraceRow.read?_traceLine, ih]

end TapeDeck
