import TapeDeck.Yaml.Source

/-!
# A place in a text

A cursor is what is left of a text and the mark of where it starts. Reading is cutting characters
off the front; the mark follows. The end of the text shows as the character NUL, which no text
holds.

Characters are decoded when they are asked for. `need` fails if there is a problem with them;
`look` only notes the problem, which then counts once the current node is complete.
-/

namespace TapeDeck.Yaml

/-! ## Characters -/

/-- The sign for the end of a text. -/
def endSign : Char := Char.ofNat 0

/-- The byte order mark. -/
def byteOrderMark : Char := Char.ofNat 0xFEFF

/-- Line breaks. -/
def isBreak (c : Char) : Bool :=
  c = '\n' || c = '\r' || c.toNat = 0x85 || c.toNat = 0x2028 || c.toNat = 0x2029

/-- Spaces and tabs. -/
def isBlank (c : Char) : Bool :=
  c = ' ' || c = '\t'

/-- Line breaks and the end. -/
def endsLine (c : Char) : Bool :=
  isBreak c || c = endSign

/-- Blanks, line breaks and the end. -/
def isSpace (c : Char) : Bool :=
  isBlank c || endsLine c

/-- How a line break reads: those of one line are all the same, and the Unicode separators stay
what they are. -/
def breakText (c : Char) : Char :=
  if c.toNat = 0x2028 || c.toNat = 0x2029 then c else '\n'

/-! ## Cursors -/

/-- What is left of a text, and where that is. -/
structure Cursor where
  /-- Characters that have been decoded. -/
  rest : List Char
  /-- What has not been decoded yet. -/
  ahead : List Block
  /-- Whether a byte order mark was next when characters were last decoded. -/
  marked : Bool
  mark : Mark
  /-- How many lines have ended since the last character that is no blank. -/
  newlines : Nat
  /-- A problem with characters that were only looked at. -/
  pending : Option Problem
  /-- A bound on the rounds of every loop over the text. -/
  rounds : Nat

namespace Cursor

/-- The start of a text. -/
def start (text : Bytes) : Cursor where
  rest := []
  ahead := blocks text
  marked := false
  mark := .zero
  newlines := 0
  pending := none
  rounds := 4 * text.length + 16

/-! ### Decoding -/

/-- Decode blocks until `n` characters are held; after the last block the end sign is added. -/
def decodeBlocks (n : Nat) : List Char → List Block → List Char × List Block × Option Problem
  | held, [] => (held ++ [endSign], [], none)
  | held, b :: ahead =>
    let held := held ++ b.chars
    match b.fault with
    | some p => (held, [⟨[], some p⟩], some p)
    | none => if held.length < n then decodeBlocks n held ahead else (held, ahead, none)

/-- Have `n` characters decoded; the problem is returned, if there is one. -/
def fill (c : Cursor) (n : Nat) : Cursor × Option Problem :=
  if (c.rest.drop (n - 1)).isEmpty then
    let (rest, ahead, problem) := decodeBlocks n c.rest c.ahead
    ({ c with rest, ahead, marked := rest.head? = some byteOrderMark }, problem)
  else (c, none)

/-- Have `n` characters decoded. -/
def need (c : Cursor) (n : Nat) : Except Error Cursor :=
  match c.fill n with
  | (c, none) => .ok c
  | (_, some p) => .error (.plain p)

/-- Have `n` characters decoded, and note whether there is a problem. -/
def look (c : Cursor) (n : Nat) : Cursor × Bool :=
  match c.fill n with
  | (c, none) => (c, true)
  | (c, some p) => ({ c with pending := some p }, false)

/-! ### What comes next -/

/-- The character `k` places ahead. -/
def peek (c : Cursor) (k : Nat) : Char := c.rest.getD k endSign

/-- The next character. -/
def head (c : Cursor) : Char := c.rest.headD endSign

/-- Whether the character `k` places ahead is `ch`. -/
def sees (c : Cursor) (k : Nat) (ch : Char) : Bool := c.peek k = ch

/-- Whether the text has ended. -/
def atEnd (c : Cursor) : Bool := c.head = endSign

/-- Whether a line here starts with `ch` three times, and then a space or nothing. -/
def marker (c : Cursor) (ch : Char) : Bool :=
  c.mark.column = 0 && c.sees 0 ch && c.sees 1 ch && c.sees 2 ch && isSpace (c.peek 3)

/-- Whether a document starts or ends here. -/
def onDocumentMarker (c : Cursor) : Bool := c.marker '-' || c.marker '.'

/-! ### Going on -/

/-- Pass over one character of a line. -/
def skip (c : Cursor) : Cursor :=
  { c with
    rest := c.rest.tail
    mark := ⟨c.mark.index + 1, c.mark.line, c.mark.column + 1⟩
    newlines := if isBlank c.head then c.newlines else 0 }

/-- Pass over some characters of a line. -/
def skipN : Nat → Cursor → Cursor
  | 0, c => c
  | n + 1, c => skipN n c.skip

/-- Pass over a line break, if there is one. -/
def skipBreak (c : Cursor) : Cursor :=
  let next (n : Nat) (rest : List Char) : Cursor :=
    { c with rest, mark := ⟨c.mark.index + n, c.mark.line + 1, 0⟩, newlines := c.newlines + 1 }
  match c.rest with
  | '\r' :: '\n' :: rest => next 2 rest
  | ch :: rest => if isBreak ch then next 1 rest else c
  | [] => c

/-- Go on while `p` holds of the next character, and collect what was passed over. -/
def spanFrom (p : Char → Bool) : Nat → Cursor → Array Char → Except Error (Array Char × Cursor)
  | 0, c, taken => .ok (taken, c)
  | rounds + 1, c, taken =>
    if p c.head then do
      spanFrom p rounds (← c.skip.need 1) (taken.push c.head)
    else .ok (taken, c)

/-- The characters of the line up to the first that fails `p`, and the cursor after them. -/
def span (c : Cursor) (p : Char → Bool) : Except Error (List Char × Cursor) := do
  let c ← c.need 1
  let (taken, c) ← spanFrom (fun ch => p ch && !endsLine ch) c.rounds c #[]
  return (taken.toList, c)

/-- Pass over characters of the line while `p` holds. -/
def skipWhile (c : Cursor) (p : Char → Bool) : Except Error Cursor := do
  return (← c.span p).2

/-- Pass over the rest of the line. -/
def skipLine (c : Cursor) : Except Error Cursor := c.skipWhile fun _ => true

/-- Pass over the line break that is next, if one is. -/
def needBreak (c : Cursor) : Except Error Cursor := do
  return (← c.need 2).skipBreak

/-! ### Comments -/

/-- How far ahead a comment is looked for. -/
def commentReach : Nat := 512

/-- The place of the comment that follows the one on the line that ends here: blanks and line
breaks of one byte may lie between. The first argument counts the places that are left. -/
def nextComment : Nat → Cursor → Cursor × Option Nat
  | 0, c => (c, none)
  | left + 1, c =>
    let k := commentReach - (left + 1)
    let (c, good) := c.look (k + 1)
    if !good then (c, none)
    else if (c.peek (k - 1)).toNat ≥ 0x80 then (c, none)
    else if c.sees k '#' then (c, some k)
    else if isBlank (c.peek k) || isBreak (c.peek k) then nextComment left c
    else (c, none)

/-- Pass over comments that follow one another, and stay at the end of the last one. -/
def skipComments : Nat → Cursor → Except Error Cursor
  | 0, c => .ok c
  | rounds + 1, c => do
    let c ← c.skipLine
    match nextComment (commentReach - 1) c with
    | (c, none) => return c
    | (c, some k) => skipComments rounds (toMark (c.mark.index + k) k c)
where
  /-- Go on to the character of the given index. -/
  toMark (index : Nat) : Nat → Cursor → Cursor
    | 0, c => c
    | n + 1, c =>
      if c.mark.index ≥ index then c
      else toMark index n (if isBreak c.head then c.skipBreak else c.skip)

/-- Whether a comment follows on the line, with only blanks before it. The first argument counts
the places that are left. -/
def commentOnLine : Nat → Cursor → Cursor × Bool
  | 0, c => (c, false)
  | left + 1, c =>
    let k := commentReach - (left + 1)
    let (c, good) := c.look (k + 1)
    if !good then (c, false)
    else if isBlank (c.peek k) then commentOnLine left c
    else (c, c.sees k '#')

/-- Pass over a comment on the line of the last token. -/
def skipLineComment (c : Cursor) : Except Error Cursor :=
  if c.newlines > 0 then .ok c
  else
    match commentOnLine commentReach c with
    | (c, true) => c.skipLine
    | (c, false) => .ok c

end Cursor

end TapeDeck.Yaml
