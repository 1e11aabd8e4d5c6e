import TapeDeck.Machine.Report
import TapeDeck.Screen.Basic

/-!
# What the panes say

The code pane shows a window of the program around the next instruction, with that instruction and
the bracket it pairs with marked. The output pane shows what the program has written, and the error
below it. The history pane shows the last steps.

A pane is a list of spans, each with or without a mark. Marks become colours (`Span.coloured`) or
nothing (`Span.plain`) only when the pane is written out.
-/

namespace TapeDeck

/-- What a marked text is. -/
inductive Mark where
  /-- The next instruction. -/
  | current
  /-- The bracket that the next instruction pairs with. -/
  | partner
  | failure
  deriving DecidableEq, Repr

/-- A stretch of text, with a mark or without. -/
structure Span where
  mark : Option Mark := none
  text : List Char
  deriving DecidableEq, Repr

/-- The sequence that turns a mark's colours on. -/
def Mark.colour : Mark → String
  | current => "\x1b[1;30;48;5;226m"
  | partner => "\x1b[4;38;5;81;4m"
  | failure => "\x1b[1;38;5;196m"

/-- The sequence that turns colours off. -/
def colourOff : String := "\x1b[0m"

/-- A tab as spaces, any other character as itself. -/
def expandTab (c : Char) : List Char :=
  if c = '\t' then List.replicate 4 ' ' else [c]

/-- The lines of a text; a text without a line end is one line. -/
def linesOf : List Char → List (List Char)
  | [] => [[]]
  | c :: rest =>
    if c = '\n' then [] :: linesOf rest
    else
      match linesOf rest with
      | line :: lines => (c :: line) :: lines
      | [] => [[c]]

/-- Lines as one text. -/
def ofLines (lines : List (List Char)) : List Char :=
  ['\n'].intercalate lines

namespace Span

/-- The text of a span without colours. Marked texts have their tabs expanded. -/
def plain (s : Span) : List Char :=
  match s.mark with
  | some _ => s.text.flatMap expandTab
  | none => s.text

/-- The text of a span with colours, each line of it by itself. -/
def coloured (s : Span) : List Char :=
  match s.mark with
  | some m =>
    ofLines ((linesOf s.plain).map fun line => m.colour.toList ++ line ++ colourOff.toList)
  | none => s.plain

end Span

/-- Spans as text without colours. -/
def plainText (spans : List Span) : List Char :=
  spans.flatMap Span.plain

/-- Spans as text with colours. -/
def colouredText (spans : List Span) : List Char :=
  spans.flatMap Span.coloured

/-! ## History -/

/-- How many steps the history pane shows. -/
def historyDepth : Nat := 8

/-- A step as the history pane shows it. -/
def Executed.text (e : Executed) : String :=
  Text.column 5 e.index ++ "  " ++ (byteChar e.command).toString ++ "  p=" ++ toString e.pointer ++
    (match e.output with
     | some b => " out=" ++ toString b.toNat
     | none => "")

/-- Lines of steps, the last one starred. -/
def historyText : List Executed → String
  | [] => ""
  | [e] => "*  " ++ e.text ++ "\n"
  | e :: rest => "   " ++ e.text ++ "\n" ++ historyText rest

/-! ## Code -/

/-- How many program bytes the code pane shows. -/
def shownBytes : Nat := 120

/-- The first byte that is shown around position `index`. -/
def codeStart (index : Nat) : Nat :=
  index - shownBytes / 2

/-- What stands for program bytes that are not shown. -/
def ellipsis : Span := { text := ['…'] }

/-- What stands for the next instruction at the end of a program. -/
def endSign : Span := { mark := some .current, text := ['∎'] }

/-- The mark of the byte at `i`, with the next instruction at `index`. -/
def markAt (table : PartnerTable) (index i : Nat) : Option Mark :=
  if i = index then some .current
  else if table.partner? index = some i then some .partner
  else none

/-- The code pane of a program, with the next instruction at `index`. -/
def codeSpans (code : Code) (table : PartnerTable) (index : Nat) : List Span :=
  let start := codeStart index
  let stop := min (start + shownBytes) code.size
  (if start > 0 then [ellipsis] else []) ++
  ((code.extract start stop).toList.zipIdx start).map (fun (b, i) =>
    { mark := markAt table index i, text := [byteChar b] }) ++
  (if index ≥ code.size then [endSign] else []) ++
  (if stop < code.size then [ellipsis] else [])

namespace Screen

/-- The history pane. -/
def historyPane (s : Screen) : String :=
  historyText (s.history.extract (s.history.size - historyDepth) s.history.size).toList

/-- The code pane. -/
def codePane (s : Screen) : List Span :=
  codeSpans s.machine.code s.partners s.machine.index

/-- The output pane. -/
def outputPane (s : Screen) : List Span :=
  { text := s.settings.encoding.chars s.machine.output.toList } ::
    (match s.error with
     | some e => [{ text := ['\n', '\n'] }, { mark := some .failure, text := e.message.toList }]
     | none => [])

end Screen

end TapeDeck
