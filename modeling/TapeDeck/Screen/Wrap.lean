import TapeDeck.Screen.Pen

/-!
# Word wrap

A text is broken into lines of at most a given number of columns. Lines break at spaces, which are
dropped there, and after hyphens; a word that is longer than a line is cut. Pieces that take no
column stay with the word they are in. A line ends with the plain pen and without a link; the next
one goes on with those of the last placed word.
-/

namespace TapeDeck.Wrap

open Terminal (Piece)

/-- A text being wrapped. -/
structure State where
  /-- What is settled. -/
  done : Array UInt8 := #[]
  /-- The word that is not placed yet. -/
  word : Array UInt8 := #[]
  /-- The spaces before that word. -/
  spaces : Nat := 0
  /-- The columns used on the current line. -/
  used : Nat := 0
  /-- The columns of the word. -/
  wordColumns : Nat := 0
  /-- Pen and link after the last piece. -/
  pen : Pen := {}
  link : Link := {}
  /-- Pen and link after the last placed word. -/
  placedPen : Pen := {}
  placedLink : Link := {}

namespace State

/-- Put a number of spaces at the end of what is settled. -/
def pad (done : Array UInt8) (n : Nat) : Array UInt8 :=
  done ++ Array.replicate n 0x20

/-- Add to what is settled. -/
def write (s : State) (text : Bytes) : State :=
  { s with done := s.done ++ text }

/-- Place the spaces. -/
def placeSpaces (s : State) : State :=
  { s with used := s.used + s.spaces, done := pad s.done s.spaces, spaces := 0 }

/-- Place the word, if there is one, and the spaces before it. -/
def placeWord (s : State) : State :=
  if s.word.isEmpty then s
  else
    let s := s.placeSpaces
    { s with
      used := s.used + s.wordColumns
      done := s.done ++ s.word
      word := #[]
      wordColumns := 0
      placedPen := s.pen
      placedLink := s.link }

/-- Put the plain pen back. -/
def closePen (s : State) : State :=
  if s.placedPen = {} then s else s.write Pen.reset

/-- Leave the link. -/
def closeLink (s : State) : State :=
  if s.placedLink = {} then s else s.write (Link.sequence {})

/-- Take up the link of the last placed word again. -/
def openLink (s : State) : State :=
  if s.placedLink = {} then s else s.write s.placedLink.sequence

/-- Take up the pen of the last placed word again. -/
def openPen (s : State) : State :=
  if s.placedPen = {} then s else s.write s.placedPen.sequence

/-- End the line and drop the spaces. The word, if there is one, goes to the next line. -/
def breakLine (s : State) : State :=
  let s := (s.closePen.closeLink.write [0x0A]).openLink.openPen
  { s with used := 0, spaces := 0 }

/-- Settle the spaces before a line end that no word follows; those that do not fit are dropped. -/
def settleSpaces (limit : Nat) (s : State) : State :=
  if s.wordColumns = 0 then
    if s.used + s.spaces > limit then { s with used := 0, spaces := 0 }
    else { s with done := pad s.done s.spaces, spaces := 0 }
  else s

/-- Take a piece into the word. A word that would be longer than a line is placed first, and a word
that does not fit on the current line goes to the next. -/
def extendWord (limit : Nat) (s : State) (p : Piece) : State :=
  let s := if s.wordColumns + p.columns > limit then s.placeWord else s
  let s := { s with word := s.word ++ p.bytes, wordColumns := s.wordColumns + p.columns }
  if s.used + s.wordColumns + s.spaces > limit then s.breakLine else s

/-- Take a piece without columns into the word; it may change pen or link. -/
def takeUnseen (s : State) (p : Piece) : State :=
  let s :=
    match p.penValues?, p.commandText?.bind Link.ofCommand? with
    | some values, _ => { s with pen := s.pen.read values }
    | none, some link => { s with link }
    | none, none => s
  { s with word := s.word ++ p.bytes }

/-- Take a piece. -/
def take (limit : Nat) (s : State) (p : Piece) : State :=
  if p.columns = 0 then
    if p.bytes = [0x0A] then (s.settleSpaces limit).placeWord.breakLine else s.takeUnseen p
  else if p.bytes = [0x20] then
    let s := s.placeWord
    { s with spaces := s.spaces + 1 }
  else if p.bytes = [0x2D] then
    let s := s.placeSpaces
    if s.used + s.wordColumns + 1 ≤ limit then
      let s := s.placeWord
      { s with done := s.done.push 0x2D, used := s.used + 1 }
    else s.extendWord limit p
  else s.extendWord limit p

/-- End the text. -/
def finish (limit : Nat) (s : State) : State :=
  (s.settleSpaces limit).placeWord.closeLink.closePen

end State

/-- A text wrapped to a number of columns. -/
def wrap (limit : Nat) (text : Bytes) : Bytes :=
  (((Terminal.pieces text).foldl (State.take limit) {}).finish limit).done.toList

end TapeDeck.Wrap
