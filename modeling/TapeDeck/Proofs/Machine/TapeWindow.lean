import TapeDeck.Machine.Report
import TapeDeck.Proofs.Text.CharBytes
import TapeDeck.Proofs.Text.Column
import TapeDeck.Proofs.Text.Lines
import Mathlib.Data.List.Basic

/-!
# The tape report always shows the pointer

A report shows the tape through a window of 16 cells that is kept inside the tape. A reader of its
own (`TapeRow.read?`) takes a line of the report apart again: the mark, the position of the cell,
and its value in decimal, in hexadecimal and as a character.

* The window holds the pointer and does not reach beyond the tape (`windowStart_le_pointer`,
  `pointer_lt_windowStart_add`, `windowStart_add_le`).
* A line says what its cell holds (`read?_cellLine`), has no line end whatever the cell holds
  (`newline_notMem_cellLine`), and has an arrow only in front (`arrow_infix_cellLine_iff`), though
  the character of a cell may be either half of one.

**`tape_window_shows_pointer`** puts this together for every tape.
-/

namespace TapeDeck

/-! ## The window -/

section Window

variable {size pointer : Nat}

theorem windowStart_le_pointer (size pointer : Nat) : windowStart size pointer ≤ pointer := by
  unfold windowStart shownCells
  split <;> omega

theorem pointer_lt_windowStart_add (h : pointer < size) :
    pointer < windowStart size pointer + min size shownCells := by
  unfold windowStart shownCells
  split <;> omega

theorem windowStart_add_le (size pointer : Nat) :
    windowStart size pointer + min size shownCells ≤ size := by
  unfold windowStart shownCells
  split <;> omega

/-- The pointer stands in the middle of the window, unless the window is at an end of the tape. -/
theorem pointer_sub_windowStart (hsize : 16 < size) (h : pointer < size) :
    pointer - windowStart size pointer =
      if pointer < 8 then pointer
      else if size - 8 < pointer then pointer - (size - 16)
      else 8 := by
  unfold windowStart shownCells
  split_ifs <;> omega

end Window

namespace Tape

variable (t : Tape)

/-- The first cell of the window. -/
def firstShown : Nat := windowStart t.size t.pointer

theorem length_window : t.window.length = min t.size shownCells := by
  have hfit := windowStart_add_le t.size t.pointer
  simp only [window, List.length_zipIdx, Array.length_toList, Array.size_extract]
  unfold size at hfit ⊢
  omega

/-- A window holds the cells from its first one on, each with its position. -/
theorem getElem?_window {k : Nat} (h : k < t.window.length) :
    t.window[k]? = t.cells[t.firstShown + k]?.map (·, t.firstShown + k) := by
  have hk : k < min t.size shownCells := t.length_window ▸ h
  have hfit := windowStart_add_le t.size t.pointer
  unfold size at hk hfit
  unfold window firstShown size
  rw [List.getElem?_zipIdx, Array.getElem?_toList, Array.getElem?_extract, if_pos (by omega)]

end Tape

/-! ## A line of the report -/

/-- The mark of the pointer's line. -/
def arrow : List Char := ['-', '>']

/-- What a line of a tape report says: whether it is marked, the cell, its value in decimal and in
hexadecimal, and a character. -/
@[ext]
structure TapeRow where
  marked : Bool
  cell : Nat
  decimal : Nat
  hexadecimal : Nat
  ascii : Char
  deriving DecidableEq, Repr

/-- Take a line apart: two places for the mark, then four fields with tabs between them. -/
def TapeRow.read? (line : List Char) : Option TapeRow := do
  guard (line.take 2 = arrow ∨ line.take 2 = [' ', ' '])
  let (cell, rest) ← Text.readColumn? (line.drop 2)
  let (decimal, rest) ← Text.readColumn? (← rest.dropPrefix? [' ', '\t', ' '])
  let rest ← rest.dropPrefix? [' ', '\t', ' ', '0', 'x']
  let hexadecimal ← Text.readHex? (rest.take 2)
  match (rest.drop 2).dropPrefix? [' ', '\t', ' '] with
  | some [ascii] => some ⟨line.take 2 = arrow, cell, decimal, hexadecimal, ascii⟩
  | _ => none

/-- The fields of a line, up to the character. -/
def cellFields (i : Nat) (v : UInt8) : List Char :=
  ' ' :: ((Text.column 4 i).toList ++ ([' ', '\t', ' '] ++ ((Text.column 3 v.toNat).toList ++
    ([' ', '\t', ' ', '0', 'x'] ++ (Text.hexDigits 2 v.toNat ++ [' ', '\t', ' '])))))

/-- The line of a cell without its line end. -/
def cellLine (pointer i : Nat) (v : UInt8) : List Char :=
  (if i = pointer then arrow else [' ', ' ']) ++ (cellFields i v ++ [asciiOf v])

theorem toList_tapeReportLine (pointer i : Nat) (v : UInt8) :
    (tapeReportLine pointer i v).toList = cellLine pointer i v ++ ['\n'] := by
  unfold tapeReportLine cellLine cellFields
  split <;> simp [Text.hex, arrow]

/-- Fields have nothing but spaces, tabs, digits, letters up to f and the x of a base. -/
theorem notMem_cellFields (i : Nat) (v : UInt8) {c : Char} (hblank : c ∉ [' ', '\t', 'x'])
    (hdigit : c.isDigit = false) (hhex : ∀ d < 16, c ≠ Text.hexDigit d) : c ∉ cellFields i v := by
  have hcolumn (width n : Nat) : c ∉ (Text.column width n).toList := by
    intro h
    rcases Text.mem_column h with rfl | h
    · exact hblank List.mem_cons_self
    · rw [hdigit] at h
      cases h
  have hdigits : c ∉ Text.hexDigits 2 v.toNat := by
    intro h
    obtain ⟨d, hd, hc⟩ := Text.mem_hexDigits h
    exact hhex d hd hc
  have hzero : c ≠ '0' := by
    rintro rfl
    cases hdigit
  simp_all [cellFields]

/-- **A line says what its cell holds.** -/
theorem read?_cellLine (pointer i : Nat) (v : UInt8) :
    TapeRow.read? (cellLine pointer i v) =
      some ⟨i = pointer, i, v.toNat, v.toNat, asciiOf v⟩ := by
  have hmark : (cellLine pointer i v).take 2 = if i = pointer then arrow else [' ', ' '] := by
    unfold cellLine
    split <;> rfl
  have hfields : (cellLine pointer i v).drop 2 = cellFields i v ++ [asciiOf v] := by
    unfold cellLine
    split <;> rfl
  have htab (fields : List Char) : Text.NoDigitNext (' ' :: fields) :=
    Text.noDigitNext_cons rfl fields
  have hcolumn (rest : List Char) : Text.readColumn? (' ' :: rest) = Text.readColumn? rest := rfl
  have hhex (rest : List Char) : Text.readHex? ((Text.hexDigits 2 v.toNat ++ rest).take 2) =
      some v.toNat := by
    rw [List.take_left' (Text.length_hexDigits 2 v.toNat), Text.readHex?_hexDigits,
      Nat.mod_eq_of_lt (show v.toNat < 16 ^ 2 from v.toNat_lt)]
  have hascii (rest : List Char) : (Text.hexDigits 2 v.toNat ++ rest).drop 2 = rest :=
    List.drop_left' (Text.length_hexDigits 2 v.toNat)
  have hguard : (if i = pointer then arrow else [' ', ' ']) = arrow ∨
      (if i = pointer then arrow else [' ', ' ']) = [' ', ' '] := by
    split
    · exact .inl rfl
    · exact .inr rfl
  have hmarked : decide ((if i = pointer then arrow else [' ', ' ']) = arrow) =
      decide (i = pointer) := by
    by_cases h : i = pointer
    · simp [h]
    · simp [h, arrow]
  unfold TapeRow.read?
  rw [hmark, hfields, cellFields]
  simp only [List.cons_append, List.append_assoc, List.nil_append, hcolumn,
    Text.readColumn?_column _ _ (htab _), hguard, guard_true, hmarked, Option.pure_def,
    Option.bind_eq_bind, Option.bind_some, List.dropPrefix?, beq_self_eq_true, if_true, hhex,
    hascii]

theorem asciiOf_ne_newline (v : UInt8) : asciiOf v ≠ '\n' := by
  unfold asciiOf
  split_ifs with h
  · intro hc
    have hcode := congrArg Char.toNat hc
    rw [Utf8.toNat_byteChar] at hcode
    have hlow := UInt8.le_iff_toNat_le.mp h.1
    rw [hcode] at hlow
    exact absurd hlow (by decide)
  · decide

/-- No cell breaks its line. -/
theorem newline_notMem_cellLine (pointer i : Nat) (v : UInt8) : '\n' ∉ cellLine pointer i v := by
  have hfields : '\n' ∉ cellFields i v := notMem_cellFields i v (by decide) rfl (by decide)
  have hmark : '\n' ∉ if i = pointer then arrow else [' ', ' '] := by
    split <;> decide
  simp [cellLine, hmark, hfields, (asciiOf_ne_newline v).symm]

/-- **Only the line of the pointer has an arrow.** The last character of a line may be either half
of one, but it has nothing beside it to make it whole. -/
theorem arrow_infix_cellLine_iff (pointer i : Nat) (v : UInt8) :
    arrow <:+: cellLine pointer i v ↔ i = pointer := by
  constructor
  · intro h
    by_contra hne
    have hdash : '-' ∉ [' ', ' '] ++ cellFields i v := by
      have hfields : '-' ∉ cellFields i v := notMem_cellFields i v (by decide) rfl (by decide)
      simp [hfields]
    rw [cellLine, if_neg hne, ← List.append_assoc, List.infix_concat_iff] at h
    rcases h with ⟨before, h⟩ | h
    · have hfront := congrArg List.dropLast h
      rw [arrow, List.dropLast_concat, List.dropLast_append_cons] at hfront
      exact hdash (hfront ▸ List.mem_append_right before List.mem_cons_self)
    · exact hdash (h.subset List.mem_cons_self)
  · rintro rfl
    rw [cellLine, if_pos rfl]
    exact List.infix_append_left

/-- The rows of a report, without their line ends. -/
def Tape.reportRows (t : Tape) : List (List Char) :=
  t.window.map fun (v, i) => cellLine t.pointer i v

theorem Tape.toList_report (t : Tape) :
    t.report.toList = closedLines ("   cell \t dec \t hex  \t ASCII".toList :: t.reportRows) := by
  have hhead : tapeReportHead.toList = "   cell \t dec \t hex  \t ASCII".toList ++ ['\n'] := by
    decide
  rw [report, String.toList_append, String.toList_join, hhead]
  simp [closedLines, reportRows, List.flatMap_map, toList_tapeReportLine]

theorem Tape.getElem?_reportRows (t : Tape) {k : Nat} {row : List Char}
    (h : t.reportRows[k]? = some row) :
    ∃ v, t.cells[t.firstShown + k]? = some v ∧
      row = cellLine t.pointer (t.firstShown + k) v := by
  have hk : k < t.window.length := by
    have hlength : k < t.reportRows.length := (List.getElem?_eq_some_iff.mp h).1
    rwa [reportRows, List.length_map] at hlength
  rw [reportRows, List.getElem?_map, t.getElem?_window hk] at h
  cases hcell : t.cells[t.firstShown + k]? with
  | none => simp [hcell] at h
  | some v =>
    simp only [hcell, Option.map_some, Option.some.injEq] at h
    exact ⟨v, rfl, h.symm⟩

/-- **The window always shows the pointer.** A report is the head and then a line for each of as
many cells as fit, at most 16: consecutive cells of the tape, each line with the position and the
value of its own cell. One of the lines, and no other, has an arrow, and it is that of the cell
under the pointer. On a tape of more than 16 cells it is at offset 8, but for a pointer so near to
an end of the tape that the window cannot be centred. -/
theorem tape_window_shows_pointer (t : Tape) :
    ∃ (start offset : Nat) (rows : List (List Char)),
      linesOf t.report.toList = "   cell \t dec \t hex  \t ASCII".toList :: (rows ++ [[]]) ∧
      rows.length = min t.size 16 ∧ start + rows.length ≤ t.size ∧
      (∀ k row, rows[k]? = some row → ∃ v, t.cells[start + k]? = some v ∧
        TapeRow.read? row = some ⟨k = offset, start + k, v.toNat, v.toNat,
          if 32 ≤ v ∧ v ≤ 126 then byteChar v else '.'⟩ ∧
        (arrow <:+: row ↔ k = offset)) ∧
      start + offset = t.pointer ∧ offset < rows.length ∧
      (16 < t.size → offset =
        if t.pointer < 8 then t.pointer
        else if t.size - 8 < t.pointer then t.pointer - (t.size - 16)
        else 8) := by
  have hpointer : t.pointer < t.size := t.pointer_lt
  have hbehind : t.firstShown ≤ t.pointer := windowStart_le_pointer _ _
  have hahead : t.pointer < t.firstShown + min t.size 16 := pointer_lt_windowStart_add hpointer
  have hfit : t.firstShown + min t.size 16 ≤ t.size := windowStart_add_le _ _
  have hlength : t.reportRows.length = min t.size 16 := by
    rw [Tape.reportRows, List.length_map, t.length_window, shownCells]
  refine ⟨t.firstShown, t.pointer - t.firstShown, t.reportRows, ?_, hlength, by omega,
    fun k row hrow => ?_, by omega, by omega, fun hsize => pointer_sub_windowStart hsize hpointer⟩
  · rw [t.toList_report]
    refine linesOf_closedLines (List.forall_mem_cons.mpr ⟨by decide, fun row hrow => ?_⟩)
    obtain ⟨⟨v, i⟩, -, rfl⟩ := List.mem_map.mp hrow
    exact newline_notMem_cellLine t.pointer i v
  · obtain ⟨v, hcell, rfl⟩ := t.getElem?_reportRows hrow
    have hk : t.firstShown + k = t.pointer ↔ k = t.pointer - t.firstShown := by omega
    exact ⟨v, hcell, by simp only [read?_cellLine, hk, asciiOf],
      by rw [arrow_infix_cellLine_iff, hk]⟩

end TapeDeck
