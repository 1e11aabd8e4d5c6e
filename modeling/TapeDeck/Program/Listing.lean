import TapeDeck.Program.Bracket

/-!
# Program listings

A listing names every command of a program with its position and, for a bracket, its partner. It
is for reading only: the machine never consults it. `listingText` prints it as a table, a row
per command.
-/

namespace TapeDeck

/-- One command of a program. -/
structure Entry where
  index : Nat
  command : UInt8
  partner : Option Nat
  deriving DecidableEq, Repr

/-- The commands of the bytes from position `i` on. -/
def listingFrom (table : PartnerTable) : Bytes → Nat → List Entry
  | [], _ => []
  | b :: rest, i =>
    if isCommand b then
      ⟨i, b, table.partner? i⟩ :: listingFrom table rest (i + 1)
    else
      listingFrom table rest (i + 1)

/-- Every command of a program, in order, with bracket partners. -/
def listing (source : Bytes) : List Entry :=
  listingFrom (partners source) source 0

/-! ## The printed table -/

/-- One row of a printed listing. The position is signed so that a table can be printed for any
numbering of the rows. -/
structure Row where
  index : Int
  command : UInt8
  partner : Option Int
  deriving DecidableEq, Repr

/-- The row that shows an entry. -/
def Entry.row (e : Entry) : Row where
  index := e.index
  command := e.command
  partner := e.partner.map Int.ofNat

/-- What a row says after its command: where a bracket leads, or that it leads nowhere. -/
def Row.note (r : Row) : String :=
  match r.partner with
  | some p =>
    if r.command = openByte then "  -> " ++ toString p
    else if r.command = closeByte then "  <- " ++ toString p
    else ""
  | none => if r.command = openByte ∨ r.command = closeByte then "  unmatched" else ""

/-- A row as text: position, command, note. -/
def Row.text (r : Row) : String :=
  Text.columnInt 5 r.index ++ "  " ++ (byteChar r.command).toString ++ r.note

/-- The head of a printed listing. -/
def Row.tableHead : String :=
  "INDEX  OP\n------------------\n"

/-- A printed listing: the head, then a line per row. -/
def Row.table (rows : List Row) : String :=
  Row.tableHead ++ String.join (rows.map fun r => r.text ++ "\n")

/-- An entry as text. -/
def Entry.text (e : Entry) : String :=
  e.row.text

/-- The printed listing of a program. -/
def listingText (source : Bytes) : String :=
  Row.table ((listing source).map Entry.row)

end TapeDeck
