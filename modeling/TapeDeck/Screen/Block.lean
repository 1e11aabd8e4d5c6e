import TapeDeck.Screen.Pane
import TapeDeck.Screen.Wrap

/-!
# Blocks

A block is a list of lines. Blocks are set side by side or one above the other, padded to a common
shape, and a text is put into a box of a given size, wrapped and framed. A box grows with its
text, never cuts it.
-/

namespace TapeDeck

/-- Lines of text. -/
abbrev Block := List Bytes

namespace Block

/-- The columns of the widest line. -/
def width (b : Block) : Nat :=
  (b.map Terminal.columns).foldl max 0

/-- A number of spaces. -/
def spaces (n : Nat) : Bytes := List.replicate n 0x20

/-- A line with spaces at its end up to a number of columns. -/
def padLine (width : Nat) (line : Bytes) : Bytes :=
  line ++ spaces (width - Terminal.columns line)

/-- All lines padded to one width, which is at least the given one. -/
def widen (least : Nat) (b : Block) : Block :=
  b.map (padLine (max least b.width))

/-- Empty lines below, up to a number of lines. -/
def heighten (height : Nat) (b : Block) : Block :=
  b ++ List.replicate (height - b.length) []

/-- The lines of a text; a text without a line end is one line. -/
def split : Bytes → Block
  | [] => [[]]
  | b :: rest =>
    if b = 0x0A then [] :: split rest
    else
      match split rest with
      | line :: lines => (b :: line) :: lines
      | [] => [[b]]

/-- Lines as one text. -/
def joined (b : Block) : Bytes :=
  [0x0A].intercalate b

/-- A text with tabs as spaces and line ends of two bytes as one. -/
def tidy : Bytes → Bytes
  | 0x0D :: 0x0A :: rest => 0x0A :: tidy rest
  | 0x09 :: rest => spaces 4 ++ tidy rest
  | b :: rest => b :: tidy rest
  | [] => []

/-- The lines of a text, wrapped to a number of columns. -/
def wrapped (columns : Nat) (text : Bytes) : Block :=
  split (Wrap.wrap columns (tidy text))

/-- A frame around a block. -/
def frame (b : Block) : Block :=
  let bar := (List.replicate b.width (Bytes.ofString "─")).flatten
  let edge (left right : String) : Bytes := Bytes.ofString left ++ bar ++ Bytes.ofString right
  edge "╭" "╮" :: b.map (fun line => Bytes.ofString "│" ++ line ++ Bytes.ofString "│") ++
    [edge "╰" "╯"]

/-- A text in a framed box of the given size, with a space at both sides of each line. -/
def box (width height : Nat) (text : Bytes) : Block :=
  let lines : Block := (wrapped (width - 2) text).map fun line => spaces 1 ++ line ++ spaces 1
  ((lines.heighten height).widen width).frame

/-- A text as a title: a space before it, and padded. -/
def title (width : Nat) (text : String) : Block :=
  let lines : Block := (wrapped (width - 1) (Bytes.ofString text)).map (spaces 1 ++ ·)
  lines.widen width

/-- Blocks side by side, the tops level. -/
def beside (blocks : List Block) : Block :=
  let height := (blocks.map List.length).foldl max 0
  blocks.foldr
    (fun b row => List.zipWith (· ++ ·) ((b.heighten height).widen 0) row)
    (List.replicate height [])

/-- Blocks one above the other, the left sides level. -/
def stack (blocks : List Block) : Block :=
  let lines : Block := blocks.flatten
  lines.widen 0

end Block

end TapeDeck
