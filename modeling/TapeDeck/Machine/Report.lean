import TapeDeck.Machine.Basic

/-!
# Reports on a machine

Texts that show a machine: the tape around the pointer (`Tape.report`), where the program stands
(`Machine.report`), and all cells, a line each (`Tape.dump`).
-/

namespace TapeDeck

/-- How many cells a tape report shows. -/
def shownCells : Nat := 16

/-- The first cell that a report shows: half a window before the pointer, kept inside the tape. -/
def windowStart (size pointer : Nat) : Nat :=
  if size > shownCells then min (pointer - shownCells / 2) (size - shownCells) else 0

/-- A cell value as a printable ASCII character, or a point. -/
def asciiOf (v : UInt8) : Char :=
  if 32 ≤ v ∧ v ≤ 126 then byteChar v else '.'

/-- The head of a tape report. -/
def tapeReportHead : String :=
  "   cell \t dec \t hex  \t ASCII\n"

/-- The line of cell `i` with value `v`, marked when the pointer is there. -/
def tapeReportLine (pointer i : Nat) (v : UInt8) : String :=
  (if i = pointer then "->" else "  ") ++ " " ++ Text.column 4 i ++ " \t " ++
    Text.column 3 v.toNat ++ " \t 0x" ++ Text.hex 2 v.toNat ++ " \t " ++
    (asciiOf v).toString ++ "\n"

namespace Tape

/-- The cells that a report shows, each with its position. -/
def window (t : Tape) : List (UInt8 × Nat) :=
  let start := windowStart t.size t.pointer
  (t.cells.extract start (start + shownCells)).toList.zipIdx start

/-- The cells around the pointer, a line each under a head. -/
def report (t : Tape) : String :=
  tapeReportHead ++ String.join (t.window.map fun (v, i) => tapeReportLine t.pointer i v)

/-- One line of a dump: the position and value of a cell, starred at the pointer. -/
def dumpLine (pointer i : Nat) (v : UInt8) : String :=
  (if i = pointer then "*" else " ") ++ toString i ++ ": " ++ toString v.toNat ++ "\n"

/-- Every cell, a line each. -/
def dumpLines (t : Tape) : List String :=
  t.cells.toList.zipIdx.map fun (v, i) => dumpLine t.pointer i v

/-- Every cell, as one text. -/
def dump (t : Tape) : String :=
  String.join t.dumpLines

/-- The cell values between brackets, separated by spaces. -/
def cellsText (t : Tape) : String :=
  "[" ++ " ".intercalate (t.cells.toList.map fun v => toString v.toNat) ++ "]"

end Tape

namespace Machine

/-- The command at the current position, or a sign for the end of the program. -/
def currentCommand (m : Machine) : String :=
  match m.code[m.index]? with
  | some b => (byteChar b).toString
  | none => "<end>"

/-- Where the program stands: status, position, steps, the reason of a halt, and what is next. -/
def report (m : Machine) : String :=
  "status: " ++ m.status.name ++ "\n" ++
  "index: " ++ toString m.index ++ "/" ++ toString m.code.size ++ "\n" ++
  "steps: " ++ toString m.steps ++ "\n" ++
  (match m.halt? with
   | some reason => "halt: " ++ haltName (some reason) ++ "\n"
   | none => "") ++
  "→ " ++ m.currentCommand

end Machine

end TapeDeck
