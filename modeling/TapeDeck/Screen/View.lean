import TapeDeck.Screen.Block

/-!
# The whole screen

The panes in their boxes, under a header with the program's name: state, history and tape in a row,
code and output below, the keys at the bottom.
-/

namespace TapeDeck

/-- The width of a pane of state, history or output. -/
def sidePaneWidth : Nat := 34

/-- The width of the tape pane. -/
def tapePaneWidth : Nat := 36

/-- The width of the code pane. -/
def codePaneWidth : Nat := 72

/-- The line of keys. -/
def keysText : String :=
  "(s)tep  (r)un  (p)ause  (c)ontinue  reset(x)  (q)uit"

/-- A pane under its title. -/
def titled (title : String) (pane : Block) : Block :=
  Block.title sidePaneWidth title ++ pane

namespace Screen

/-- The header. -/
def header (s : Screen) : Block :=
  (Block.split (Block.tidy (Bytes.ofString "BRAINSTUCK - " ++ s.settings.program.name))).widen 0

/-- State, history and tape. -/
def upperArea (s : Screen) : Block :=
  let side (text : String) : Block :=
    Block.box sidePaneWidth (historyDepth + 2) (Bytes.ofString text)
  let tape := Bytes.ofString s.machine.tape.report
  Block.beside
    [titled "State" (side s.machine.report),
     titled "Instruction History" (side s.historyPane),
     titled "Tape" (Block.box tapePaneWidth (shownCells + 1) tape)]

/-- Code and output. -/
def lowerArea (s : Screen) : Block :=
  Block.beside
    [titled "Code" (Block.box codePaneWidth 4 (Utf8.encode (plainText s.codePane))),
     titled "Output" (Block.box sidePaneWidth 4 (Utf8.encode (plainText s.outputPane)))]

/-- The keys. -/
def keysArea : Block :=
  titled "Commands" (Block.box codePaneWidth 1 (Bytes.ofString keysText))

/-- The screen as text. -/
def view (s : Screen) : Bytes :=
  (Block.stack [s.header, s.upperArea, s.lowerArea, keysArea]).joined

end Screen

end TapeDeck
