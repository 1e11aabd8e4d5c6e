import TapeDeck.Text.Cluster

/-!
# Texts for a terminal

A text may hold escape sequences, which a terminal acts on and does not show. `columns` measures a
line the way a terminal reads it, byte by byte. `pieces` cuts a text into clusters, control
characters and whole sequences, which is what wrapping works on. The two differ on sequences that
are broken off: a terminal waits for the rest of them, and a piece ends where it cannot go on.
-/

namespace TapeDeck.Terminal

/-! ## Measuring -/

/-- What a terminal is reading. -/
inductive Phase where
  | ground
  | escape
  | escapeMiddle
  | controlStart
  | controlValues
  | controlMiddle
  | deviceStart
  | deviceValues
  | deviceMiddle
  | deviceText
  | commandText
  | privateText
  deriving DecidableEq, Repr

/-- Whether a byte is one of the control characters that sequences let pass. -/
def isInert (b : UInt8) : Bool :=
  b ≤ 0x17 || b = 0x19 || (0x1C ≤ b && b ≤ 0x1F)

/-- What any byte leads to where nothing else is said. -/
def Phase.anywhere (b : UInt8) : Phase :=
  if b = 0x1B then .escape
  else if b = 0x9B then .controlStart
  else if b = 0x90 then .deviceStart
  else if b = 0x9D then .commandText
  else if b = 0x98 ∨ b = 0x9E ∨ b = 0x9F then .privateText
  else .ground

/-- What a byte leads to within a text that a sequence holds. A private text holds nothing beyond
ASCII. -/
def Phase.within (p : Phase) (b : UInt8) : Phase :=
  if b = 0x1B then .escape
  else if b = 0x9C ∨ b = 0x18 ∨ b = 0x1A then .ground
  else if b = 0x07 ∧ p = .commandText then .ground
  else if 0x80 ≤ b ∧ p = .privateText then anywhere b
  else p

/-- What comes after a byte of a sequence that has values, in its three stages. -/
def Phase.valued (p values middle : Phase) (final : Phase) (b : UInt8) : Phase :=
  if 0x40 ≤ b ∧ b ≤ 0x7E then final
  else if 0x20 ≤ b ∧ b ≤ 0x2F then middle
  else if 0x30 ≤ b ∧ b ≤ 0x3F then values
  else if isInert b ∨ b = 0x7F then p
  else anywhere b

/-- What comes after a byte. -/
def Phase.next (p : Phase) (b : UInt8) : Phase :=
  match p with
  | .ground => anywhere b
  | .escape =>
    if b = 0x5B then .controlStart
    else if b = 0x50 then .deviceStart
    else if b = 0x5D then .commandText
    else if b = 0x58 ∨ b = 0x5E ∨ b = 0x5F then .privateText
    else if 0x20 ≤ b ∧ b ≤ 0x2F then .escapeMiddle
    else if isInert b ∨ b = 0x7F then .escape
    else anywhere b
  | .escapeMiddle =>
    if (0x20 ≤ b ∧ b ≤ 0x2F) ∨ isInert b ∨ b = 0x7F then .escapeMiddle else anywhere b
  | .controlStart | .controlValues => p.valued .controlValues .controlMiddle .ground b
  | .controlMiddle => p.valued .ground .controlMiddle .ground b
  | .deviceStart =>
    if (0x08 ≤ b ∧ b ≤ 0x0D) ∨ b = 0x1B then .deviceText
    else p.valued .deviceValues .deviceMiddle .deviceText b
  | .deviceValues => p.valued .deviceValues .deviceMiddle .deviceText b
  | .deviceMiddle => p.valued .deviceText .deviceMiddle .deviceText b
  | .deviceText | .commandText | .privateText => p.within b

/-- Whether a sequence holds text here that may go beyond ASCII. -/
def Phase.holdsText : Phase → Bool
  | .deviceText | .commandText => true
  | _ => false

/-- The columns of a line from a phase on. The second argument counts the bytes of the current
cluster still to be passed over. -/
def columnsFrom (bound : Nat) : Phase → Nat → Bytes → Nat → Nat
  | _, _, [], columns => columns
  | p, skip + 1, _ :: rest, columns => columnsFrom bound p skip rest columns
  | p, 0, b :: rest, columns =>
    if !p.holdsText && 0xC2 ≤ b && b ≤ 0xF4 then
      let k := Text.Cluster.first bound (b :: rest)
      columnsFrom bound .ground (k.size - 1) rest (columns + k.cells)
    else
      let shown := p = .ground && 0x20 ≤ b && b ≤ 0x7E
      columnsFrom bound (p.next b) 0 rest (if shown then columns + 1 else columns)

/-- The columns that a line takes. -/
def columns (line : Bytes) : Nat :=
  columnsFrom line.length .ground 0 line 0

/-! ## Pieces -/

/-- The stage of a sequence that is being read. -/
inductive Stage where
  | escape
  | lead
  | values
  | middle
  | text
  deriving DecidableEq, Repr

/-- How a sequence goes on: in a stage, or to its end after a number of bytes. -/
inductive Going where
  | on (s : Stage)
  | ends (bytes : Nat)

/-- What the first bytes of a sequence say it is. -/
inductive Opening where
  | command
  | device
  | other
  deriving DecidableEq, Repr

/-- After the values of a sequence. -/
def afterValues (opening : Opening) (b : UInt8) : Going :=
  if 0x20 ≤ b ∧ b ≤ 0x2F then .on .middle
  else if 0x40 ≤ b ∧ b ≤ 0x7E then if opening = .device then .on .text else .ends 1
  else .ends 0

/-- Among the values of a sequence. -/
def amongValues (opening : Opening) (b : UInt8) : Going :=
  if 0x30 ≤ b ∧ b ≤ 0x3B then .on .values else afterValues opening b

/-- How a sequence goes on with a byte, and what follows it. -/
def Stage.going (opening : Opening) (s : Stage) (b : UInt8) (rest : Bytes) : Going :=
  match s with
  | .escape =>
    if b = 0x5B ∨ b = 0x50 then .on .lead
    else if b = 0x5D ∨ b = 0x58 ∨ b = 0x5E ∨ b = 0x5F then .on .text
    else if 0x20 ≤ b ∧ b ≤ 0x2F then .on .escape
    else if 0x30 ≤ b ∧ b ≤ 0x7E then .ends 1
    else .ends 0
  | .lead => if 0x3C ≤ b ∧ b ≤ 0x3F then .on .lead else amongValues opening b
  | .values => amongValues opening b
  | .middle => afterValues opening b
  | .text =>
    if b = 0x07 ∧ opening = .command then .ends 1
    else if b = 0x18 ∨ b = 0x1A then .ends 0
    else if b = 0x9C then .ends 1
    else if b = 0x1B then if rest.head? = some 0x5C then .ends 2 else .ends 0
    else .on .text

/-- How many bytes belong to a sequence from a stage on. -/
def sequenceSize (opening : Opening) : Stage → Bytes → Nat
  | _, [] => 0
  | s, b :: rest =>
    match s.going opening b rest with
    | .on s => sequenceSize opening s rest + 1
    | .ends n => n

/-- What a sequence that starts with these bytes is. -/
def Opening.of : Bytes → Opening
  | 0x1B :: 0x5D :: _ => .command
  | 0x1B :: 0x50 :: _ => .device
  | 0x9D :: _ => .command
  | 0x90 :: _ => .device
  | _ => .other

/-- The stage that a byte opens a sequence in, if it does. -/
def Stage.opened? (b : UInt8) : Option Stage :=
  if b = 0x1B then some .escape
  else if b = 0x9B ∨ b = 0x90 then some .lead
  else if b = 0x9D ∨ b = 0x9F ∨ b = 0x98 ∨ b = 0x9E then some .text
  else none

/-- A part of a text that is not split. -/
structure Piece where
  bytes : Bytes
  /-- The columns it takes; control characters and sequences take none. -/
  columns : Nat
  deriving DecidableEq, Repr

/-- The size and the columns of the piece that a text starts with. -/
def frontPiece (bound : Nat) (b : UInt8) (rest : Bytes) : Nat × Nat :=
  match Stage.opened? b with
  | some stage => (sequenceSize (.of (b :: rest)) stage rest + 1, 0)
  | none =>
    if 0x20 ≤ b ∧ b ≤ 0x7E then (1, 1)
    else if b < 0xC0 then (1, 0)
    else
      let k := Text.Cluster.first bound (b :: rest)
      (k.size, k.cells)

/-- The pieces of a text. The second argument counts the bytes still to be passed over. -/
def piecesFrom (bound : Nat) : Nat → Bytes → List Piece
  | _, [] => []
  | skip + 1, _ :: rest => piecesFrom bound skip rest
  | 0, b :: rest =>
    let (size, columns) := frontPiece bound b rest
    ⟨(b :: rest).take size, columns⟩ :: piecesFrom bound (size - 1) rest

/-- The pieces of a text. -/
def pieces (text : Bytes) : List Piece :=
  piecesFrom text.length 0 text

end TapeDeck.Terminal
