import TapeDeck.Machine.Report
import TapeDeck.Proofs.Program.Partner
import TapeDeck.Proofs.Tape
import TapeDeck.Proofs.Text.CharBytes
import TapeDeck.Proofs.Text.Column
import TapeDeck.Proofs.Text.Lines

/-!
# Printouts read back

A program is printed as its listing and a tape as its dump, both a line for each entry or cell. The
readers here take the texts apart again, and know nothing of what has printed them: `Entry.read?`
and `DumpRow.read?` read a line, `readListing` and `readDump?` a whole text. What is no row, such as
the head of a listing, is passed over.

A number stands in a line as it is, whatever its width, and ends where the next character is no
digit. So nothing depends on the columns being kept: a position that is wider than its column reads
back like any other (`Entry.read?_text`, `DumpRow.read?_line`).

* `readListing_listingText`: the text of a listing reads back as the listing.
* `readDump?_dump`: the dump of a tape reads back as the tape.

**`printouts_lossless`** follows: texts are equal only where what was printed is.
-/

namespace TapeDeck

/-! ## Rows of a listing -/

/-- What stands behind a bracket without a partner. -/
def unmatchedNote : List Char :=
  [' ', ' ', 'u', 'n', 'm', 'a', 't', 'c', 'h', 'e', 'd']

/-- Read the partner at the end of a row: an arrow in either direction and a position, or the note
that there is none, or nothing. -/
def readPartner? (field : List Char) : Option (Option Nat) :=
  if field = [] ∨ field = unmatchedNote then some none
  else do
    guard (field.take 5 = [' ', ' ', '-', '>', ' '] ∨ field.take 5 = [' ', ' ', '<', '-', ' '])
    let (partner, rest) ← Text.readNumber? (field.drop 5)
    guard (rest = [])
    some (some partner)

/-- Take a row apart: the position, two spaces, the character of the command, and its partner. -/
def Entry.read? (row : List Char) : Option Entry := do
  let (index, rest) ← Text.readColumn? row
  match (← rest.dropPrefix? [' ', ' ']) with
  | [] => none
  | c :: field => some ⟨index, ← byteOf? c.toNat, ← readPartner? field⟩

/-- An entry as listings have them: a command, with a partner only if it is a bracket. -/
structure Entry.Listed (e : Entry) : Prop where
  command : isCommand e.command = true
  bracket : e.partner ≠ none → e.command = openByte ∨ e.command = closeByte

theorem listed_of_mem {source : Bytes} {e : Entry} (h : e ∈ listing source) : e.Listed := by
  obtain ⟨hb, hcommand, hpartner⟩ := (mem_listing_iff source e).mp h
  refine ⟨hcommand, fun hne => ?_⟩
  obtain ⟨j, hj⟩ := Option.ne_none_iff_exists'.mp hne
  rw [hpartner] at hj
  rcases bracket_of_partnerOf? hj with ho | hc
  · rw [List.getElem?_toArray, hb] at ho
    exact .inl (Option.some.inj ho)
  · rw [List.getElem?_toArray, hb] at hc
    exact .inr (Option.some.inj hc)

section Entry

variable {e : Entry}

/-- The note of an entry: an arrow and a position, the note that there is none, or nothing. -/
theorem Entry.Listed.note_cases (h : e.Listed) :
    (∃ p, e.partner = some p ∧
      (e.row.note.toList = [' ', ' ', '-', '>', ' '] ++ Nat.toDigits 10 p ∨
        e.row.note.toList = [' ', ' ', '<', '-', ' '] ++ Nat.toDigits 10 p)) ∨
    (e.partner = none ∧ (e.row.note.toList = [] ∨ e.row.note.toList = unmatchedNote)) := by
  cases hp : e.partner with
  | some p =>
    have hrow : e.row.partner = some (p : Int) := by
      rw [Entry.row, hp]
      rfl
    have hdigits : (p : Int).repr.toList = Nat.toDigits 10 p := by
      show p.repr.toList = _
      simp
    refine .inl ⟨p, rfl, ?_⟩
    rcases h.bracket (hp ▸ Option.some_ne_none p) with hb | hb
    · have hcommand : e.row.command = openByte := hb
      refine .inl ?_
      rw [Row.note, hrow]
      simp [hcommand, hdigits]
    · have hcommand : e.row.command = closeByte := hb
      refine .inr ?_
      rw [Row.note, hrow]
      simp [hcommand, hdigits, openByte_ne_closeByte.symm]
  | none =>
    have hrow : e.row.partner = none := by
      rw [Entry.row, hp]
      rfl
    refine .inr ⟨rfl, ?_⟩
    rw [Row.note, hrow]
    dsimp only
    split_ifs
    · exact .inr (by decide)
    · exact .inl rfl

theorem readPartner?_note (h : e.Listed) : readPartner? e.row.note.toList = some e.partner := by
  obtain ⟨p, hp, hnote⟩ | ⟨hp, hnote⟩ := h.note_cases
  · rcases hnote with hnote | hnote
    · simp [readPartner?, hnote, hp, Text.readNumber?_toDigits_nil, unmatchedNote]
    · simp [readPartner?, hnote, hp, Text.readNumber?_toDigits_nil, unmatchedNote]
  · rw [readPartner?, if_pos hnote, hp]

/-- The text of an entry, in the parts in which it is read. -/
theorem toList_entryText (e : Entry) :
    e.text.toList =
      (Text.column 5 e.index).toList ++ ([' ', ' ', byteChar e.command] ++ e.row.note.toList) := by
  have hindex : Text.columnInt 5 e.row.index = Text.column 5 e.index := rfl
  have hcommand : e.row.command = e.command := rfl
  simp [Entry.text, Row.text, hindex, hcommand]

/-- **A row says which entry it shows.** -/
theorem Entry.read?_text (h : e.Listed) : read? e.text.toList = some e := by
  have hindex (rest : List Char) : Text.NoDigitNext (' ' :: rest) :=
    Text.noDigitNext_cons rfl rest
  simp [read?, toList_entryText, Text.readColumn?_column _ _ (hindex _), List.dropPrefix?,
    Utf8.toNat_byteChar, byteOf?_toNat, readPartner?_note h]

/-- A command is no line end. -/
theorem byteChar_command_ne_newline {b : UInt8} (h : isCommand b = true) : byteChar b ≠ '\n' := by
  obtain ⟨c, hc⟩ := Option.isSome_iff_exists.mp h
  obtain rfl := Command.ofByte?_eq_some_iff.mp hc
  cases c <;> decide

theorem newline_notMem_entryText (h : e.Listed) : '\n' ∉ e.text.toList := by
  have hnote : '\n' ∉ e.row.note.toList := by
    obtain ⟨p, -, hnote | hnote⟩ | ⟨-, hnote | hnote⟩ := h.note_cases
    · simp [hnote, Text.newline_notMem_toDigits]
    · simp [hnote, Text.newline_notMem_toDigits]
    · simp [hnote]
    · simp [hnote, unmatchedNote]
  simp [toList_entryText, hnote, Text.newline_notMem_column,
    (byteChar_command_ne_newline h.command).symm]

end Entry

/-! ## Listings -/

/-- The entries that a text shows, a line each. -/
def readListing (text : String) : List Entry :=
  (linesOf text.toList).filterMap Entry.read?

/-- The lines above the rows of a listing. -/
def listingHead : List (List Char) :=
  ["INDEX  OP".toList, "------------------".toList]

theorem toList_listingText (source : Bytes) :
    (listingText source).toList =
      closedLines (listingHead ++ (listing source).map fun e => e.text.toList) := by
  have hhead : Row.tableHead.toList = closedLines listingHead := by decide
  rw [listingText, Row.table, String.toList_append, String.toList_join, hhead]
  simp [closedLines, List.flatMap_map, Entry.text]

/-- **The text of a listing reads back as the listing.** -/
theorem readListing_listingText (source : Bytes) :
    readListing (listingText source) = listing source := by
  rw [readListing, toList_listingText]
  refine filterMap_linesOf_closedLines (by decide) (by decide) fun e he => ?_
  have hlisted := listed_of_mem he
  exact ⟨newline_notMem_entryText hlisted, Entry.read?_text hlisted⟩

/-! ## Rows of a dump -/

/-- What a line of a dump says: whether the pointer is there, the cell, and its value. -/
structure DumpRow where
  marked : Bool
  cell : Nat
  value : UInt8
  deriving DecidableEq, Repr

namespace DumpRow

/-- The line that says it. -/
def line (r : DumpRow) : List Char :=
  (if r.marked then '*' else ' ') ::
    (Nat.toDigits 10 r.cell ++ ([':', ' '] ++ Nat.toDigits 10 r.value.toNat))

/-- Take a line apart: a place for the star, then the cell and its value. -/
def read? : List Char → Option DumpRow
  | [] => none
  | mark :: fields => do
    guard (mark = '*' ∨ mark = ' ')
    let (cell, rest) ← Text.readNumber? fields
    let (value, rest) ← Text.readNumber? (← rest.dropPrefix? [':', ' '])
    guard (rest = [])
    some ⟨mark = '*', cell, ← byteOf? value⟩

/-- **A line says what its cell holds.** -/
theorem read?_line (r : DumpRow) : read? r.line = some r := by
  obtain ⟨marked, cell, value⟩ := r
  have hcell (rest : List Char) : Text.NoDigitNext (':' :: rest) :=
    Text.noDigitNext_cons rfl rest
  cases marked <;>
    simp [read?, line, Text.readNumber?_toDigits _ (hcell _), List.dropPrefix?,
      Text.readNumber?_toDigits_nil, byteOf?_toNat]

theorem newline_notMem_line (r : DumpRow) : '\n' ∉ r.line := by
  have hmark : '\n' ≠ if r.marked then '*' else ' ' := by
    split <;> decide
  simp [line, hmark, Text.newline_notMem_toDigits]

end DumpRow

/-! ## Dumps -/

namespace Tape

variable (t : Tape)

/-- The rows of a dump. -/
def dumpRows : List DumpRow :=
  t.cells.toList.zipIdx.map fun (v, i) => ⟨i = t.pointer, i, v⟩

/-- The tape that rows show: their values, with the pointer at the first that is marked. -/
def ofRows? (rows : List DumpRow) : Option Tape :=
  let cells := (rows.map DumpRow.value).toArray
  if h : rows.findIdx DumpRow.marked < cells.size then some ⟨cells, _, h⟩ else none

/-- The tape that a text shows, a line for each cell. -/
def readDump? (text : String) : Option Tape :=
  ofRows? ((linesOf text.toList).filterMap DumpRow.read?)

theorem toList_dump : t.dump.toList = closedLines (t.dumpRows.map DumpRow.line) := by
  have hline (v : UInt8) (i : Nat) :
      (dumpLine t.pointer i v).toList = DumpRow.line ⟨i = t.pointer, i, v⟩ ++ ['\n'] := by
    by_cases hi : i = t.pointer <;> simp [dumpLine, DumpRow.line, hi]
  rw [dump, dumpLines, String.toList_join]
  simp [closedLines, dumpRows, List.flatMap_map, hline]

theorem map_value_dumpRows : t.dumpRows.map DumpRow.value = t.cells.toList := by
  rw [dumpRows, List.map_map]
  exact List.zipIdx_map_fst 0 t.cells.toList

theorem findIdx_dumpRows : t.dumpRows.findIdx DumpRow.marked = t.pointer := by
  have hlength : t.pointer < t.dumpRows.length := by
    simpa [dumpRows] using t.pointer_lt
  rw [List.findIdx_eq hlength]
  refine ⟨by simp [dumpRows], fun i hi => ?_⟩
  simp [dumpRows, Nat.ne_of_lt hi]

theorem ofRows?_dumpRows : ofRows? t.dumpRows = some t := by
  have hcells : (t.dumpRows.map DumpRow.value).toArray = t.cells := by
    rw [map_value_dumpRows, Array.toArray_toList]
  have hfits : t.dumpRows.findIdx DumpRow.marked <
      (t.dumpRows.map DumpRow.value).toArray.size := by
    rw [hcells, findIdx_dumpRows]
    exact t.pointer_lt
  rw [ofRows?, dif_pos hfits]
  exact congrArg some (Tape.ext hcells t.findIdx_dumpRows)

/-- **The dump of a tape reads back as the tape.** -/
theorem readDump?_dump : readDump? t.dump = some t := by
  have hrows : (linesOf t.dump.toList).filterMap DumpRow.read? = t.dumpRows := by
    rw [toList_dump, ← List.nil_append (t.dumpRows.map DumpRow.line)]
    exact filterMap_linesOf_closedLines nofun rfl fun r _ => ⟨r.newline_notMem_line, r.read?_line⟩
  rw [readDump?, hrows, ofRows?_dumpRows]

end Tape

/-- **Printouts lose nothing.** Two programs have the same listing text exactly if they have the
same listing, however far their positions go, and two machines have the same dump exactly if their
tapes have the same cells and the pointer at the same place. -/
theorem printouts_lossless :
    (∀ p q, listingText p = listingText q ↔ listing p = listing q) ∧
    (∀ m m' : Machine, m.tape.dump = m'.tape.dump ↔
      m.tape.cells = m'.tape.cells ∧ m.tape.pointer = m'.tape.pointer) := by
  refine ⟨fun p q => ⟨fun h => ?_, fun h => ?_⟩, fun m m' => ⟨fun h => ?_, fun h => ?_⟩⟩
  · rw [← readListing_listingText p, h, readListing_listingText]
  · rw [listingText, h, listingText]
  · have hread := m.tape.readDump?_dump
    rw [h, Tape.readDump?_dump] at hread
    rw [Option.some.inj hread]
    exact ⟨rfl, rfl⟩
  · rw [Tape.ext h.1 h.2]

end TapeDeck
