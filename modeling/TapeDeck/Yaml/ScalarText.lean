import TapeDeck.Yaml.Cursor

/-!
# Reading scalars

The three forms of a scalar's text. In the plain and the quoted form a run of blanks and line
breaks between two words is *folded*: one break reads as a space, and of several all but the first
stay. The block form keeps its lines, or folds them, and strips their indentation.

The readers take a bound on their rounds: every round passes over at least one character.
-/

namespace TapeDeck.Yaml

/-- A scalar's text, the cursor after it, and whether the text ended with a line. -/
structure ScalarRead where
  text : Array Char
  cursor : Cursor
  endsLine : Bool

/-! ## The space between two words -/

/-- Blanks and line breaks between two words. -/
structure Gap where
  blanks : Array Char
  broken : Bool
  first : Option Char
  more : Array Char

/-- No space at all. -/
def Gap.none : Gap := ⟨#[], false, .none, #[]⟩

/-- How a gap reads. -/
def Gap.folded (g : Gap) : Array Char :=
  if g.broken then
    if g.first = some '\n' then (if g.more.isEmpty then #[' '] else g.more)
    else g.first.toArray ++ g.more
  else g.blanks

/-- Read a gap. A tab in the indentation of a later line is refused when an indentation is
given. -/
def readGap (indent : Option Int) (context : Mark) : Nat → Cursor → Gap →
    Except Error (Cursor × Gap)
  | 0, c, g => .ok (c, g)
  | rounds + 1, c, g =>
    if isBlank c.head then
      if g.broken && c.head = '\t' && indent.any (fun n => (c.mark.column : Int) < n) then
        .error (.ofToken context c.mark .tabInScalar)
      else do
        let g := if g.broken then g else { g with blanks := g.blanks.push c.head }
        readGap indent context rounds (← c.skip.need 1) g
    else if isBreak c.head then do
      let text := breakText c.head
      let g := if g.broken then { g with more := g.more.push text } else ⟨#[], true, some text, #[]⟩
      readGap indent context rounds (← (← c.needBreak).need 1) g
    else .ok (c, g)

/-! ## Plain scalars -/

/-- Characters that have a meaning of their own inside flow collections. -/
def isFlowIndicator (c : Char) : Bool :=
  c = ',' || c = '?' || c = '[' || c = ']' || c = '\x7b' || c = '\x7d'

/-- Read a word of a plain scalar; the gap before it counts once there is a word. -/
def readPlainWord (flow : Bool) : Nat → Cursor → Array Char → Gap →
    Except Error (Cursor × Array Char × Gap)
  | 0, c, text, gap => .ok (c, text, gap)
  | rounds + 1, c, text, gap =>
    if isSpace c.head || (c.head = ':' && isSpace (c.peek 1)) ||
        (flow && isFlowIndicator c.head) then
      .ok (c, text, gap)
    else do
      readPlainWord flow rounds (← c.skip.need 2) ((text ++ gap.folded).push c.head) Gap.none

/-- Read words and gaps of a plain scalar. -/
def readPlainFrom (flow : Bool) (indent : Int) (context : Mark) :
    Nat → Cursor → Array Char → Gap → Except Error ScalarRead
  | 0, c, text, gap => .ok ⟨text, c, gap.broken⟩
  | rounds + 1, c, text, gap => do
    let c ← c.need 4
    if c.onDocumentMarker || c.sees 0 '#' then return ⟨text, c, gap.broken⟩
    let (c, text, gap) ← readPlainWord flow c.rounds c text gap
    if !(isBlank c.head || isBreak c.head) then return ⟨text, c, gap.broken⟩
    let (c, gap) ← readGap (some indent) context c.rounds c gap
    if !flow && (c.mark.column : Int) < indent then return ⟨text, c, gap.broken⟩
    readPlainFrom flow indent context rounds c text gap

/-- Read a plain scalar inside a block of the given indentation. -/
def readPlain (flow : Bool) (indent : Int) (c : Cursor) : Except Error ScalarRead :=
  readPlainFrom flow (indent + 1) c.mark c.rounds c #[] Gap.none

/-! ## Quoted scalars -/

/-- The value of a hexadecimal digit. -/
def hexValue? (c : Char) : Option Nat :=
  if '0' ≤ c ∧ c ≤ '9' then some (c.toNat - '0'.toNat)
  else if 'a' ≤ c ∧ c ≤ 'f' then some (c.toNat - 'a'.toNat + 10)
  else if 'A' ≤ c ∧ c ≤ 'F' then some (c.toNat - 'A'.toNat + 10)
  else none

/-- The number that hexadecimal digits stand for. -/
def hexNumber? (cs : List Char) : Option Nat :=
  cs.foldl (fun n c => n.bind fun n => (hexValue? c).map fun d => n * 16 + d) (some 0)

/-- What the character after a backslash stands for. -/
inductive Escape where
  | char (c : Char)
  | code (digits : Nat)

/-- The escapes of double-quoted scalars. -/
def escape? (c : Char) : Option Escape :=
  match c with
  | '0' => some (.char (Char.ofNat 0))
  | 'a' => some (.char '\x07')
  | 'b' => some (.char '\x08')
  | 't' => some (.char '\t')
  | '\t' => some (.char '\t')
  | 'n' => some (.char '\n')
  | 'v' => some (.char '\x0b')
  | 'f' => some (.char '\x0c')
  | 'r' => some (.char '\x0d')
  | 'e' => some (.char '\x1b')
  | ' ' => some (.char ' ')
  | '"' => some (.char '"')
  | '\x27' => some (.char '\x27')
  | '\\' => some (.char '\\')
  | 'N' => some (.char (Char.ofNat 0x85))
  | '_' => some (.char (Char.ofNat 0xA0))
  | 'L' => some (.char (Char.ofNat 0x2028))
  | 'P' => some (.char (Char.ofNat 0x2029))
  | 'x' => some (.code 2)
  | 'u' => some (.code 4)
  | 'U' => some (.code 8)
  | _ => none

/-- Read the escape after a backslash. -/
def readEscape (context : Mark) (c : Cursor) : Except Error (Char × Cursor) := do
  match escape? (c.peek 1) with
  | none => throw (.ofToken context c.mark .unknownEscape)
  | some (.char ch) => return (ch, c.skipN 2)
  | some (.code digits) =>
    let c ← (c.skipN 2).need digits
    match hexNumber? ((List.range digits).map c.peek) with
    | none => throw (.ofToken context c.mark .expectedHex)
    | some n =>
      if (0xD800 ≤ n ∧ n ≤ 0xDFFF) ∨ n > 0x10FFFF then
        throw (.ofToken context c.mark .invalidEscape)
      return (Char.ofNat n, c.skipN digits)

/-- The quote of a quoted scalar. -/
def quoteSign (single : Bool) : Char := if single then '\x27' else '"'

/-- Read a word of a quoted scalar, up to its quote, a blank or a line break. The flag tells
whether a backslash hid a line break. -/
def readQuotedWord (single : Bool) (context : Mark) :
    Nat → Cursor → Array Char → Except Error (Cursor × Array Char × Bool)
  | 0, c, text => .ok (c, text, false)
  | rounds + 1, c, text =>
    if isSpace c.head then .ok (c, text, false)
    else if single && c.sees 0 '\x27' && c.sees 1 '\x27' then do
      readQuotedWord single context rounds (← (c.skipN 2).need 2) (text.push '\x27')
    else if c.head = quoteSign single then .ok (c, text, false)
    else if !single && c.sees 0 '\\' && isBreak (c.peek 1) then do
      return ((← c.need 3).skip.skipBreak, text, true)
    else if !single && c.sees 0 '\\' then do
      let (ch, c) ← readEscape context c
      readQuotedWord single context rounds (← c.need 2) (text.push ch)
    else do
      readQuotedWord single context rounds (← c.skip.need 2) (text.push c.head)

/-- Read words and gaps of a quoted scalar. -/
def readQuotedFrom (single : Bool) (context : Mark) :
    Nat → Cursor → Array Char → Except Error ScalarRead
  | 0, c, _ => .error (.ofToken context c.mark .endOfText)
  | rounds + 1, c, text => do
    let c ← c.need 4
    if c.onDocumentMarker then throw (.ofToken context c.mark .documentIndicator)
    if c.atEnd then throw (.ofToken context c.mark .endOfText)
    let (c, text, hidden) ← readQuotedWord single context c.rounds c text
    let c ← c.need 1
    if c.head = quoteSign single then return ⟨text, c.skip, false⟩
    let (c, gap) ← readGap none context c.rounds c { Gap.none with broken := hidden }
    readQuotedFrom single context rounds c (text ++ gap.folded)

/-- Read a quoted scalar from its first quote on. -/
def readQuoted (single : Bool) (c : Cursor) : Except Error ScalarRead :=
  readQuotedFrom single c.mark c.rounds c.skip #[]

/-! ## Block scalars -/

/-- What happens to the line breaks at the end of a block scalar. -/
inductive Chomp where
  | strip
  | clip
  | keep
  deriving DecidableEq, Repr

/-- A chomping sign. -/
def chomp? (c : Cursor) : Option Chomp :=
  if c.sees 0 '+' then some .keep else if c.sees 0 '-' then some .strip else none

/-- Read an indentation digit, if there is one. -/
def readIndent (context : Mark) (c : Cursor) : Except Error (Nat × Cursor) := do
  if c.sees 0 '0' then throw (.ofToken context c.mark .zeroIndent)
  if c.head.isDigit then return (c.head.toNat - '0'.toNat, c.skip)
  return (0, c)

/-- Read the chomping sign and the indentation digit, in either order. -/
def readBlockHead (context : Mark) (c : Cursor) : Except Error (Chomp × Nat × Cursor) := do
  let c ← c.need 1
  match chomp? c with
  | some chomp =>
    let (indent, c) ← readIndent context (← c.skip.need 1)
    return (chomp, indent, c)
  | none =>
    let (indent, c) ← readIndent context c
    if indent = 0 then return (.clip, 0, c)
    let c ← c.need 1
    match chomp? c with
    | some chomp => return (chomp, indent, c.skip)
    | none => return (.clip, indent, c)

/-- Whether the cursor stands in the indentation; zero means that it is not known yet. -/
def inIndent (indent : Nat) (c : Cursor) : Bool := indent = 0 || c.mark.column < indent

/-- Pass over the spaces of the indentation. -/
def skipIndent (indent : Nat) : Nat → Cursor → Except Error Cursor
  | 0, c => .ok c
  | rounds + 1, c =>
    if inIndent indent c && c.sees 0 ' ' then do skipIndent indent rounds (← c.skip.need 1)
    else .ok c

/-- Pass over indentation and empty lines. The widest line seen is returned, for the case that
the indentation is not known yet. -/
def readBlockBreaks (context : Mark) (indent : Nat) :
    Nat → Cursor → Array Char → Nat → Except Error (Cursor × Array Char × Nat)
  | 0, c, breaks, widest => .ok (c, breaks, widest)
  | rounds + 1, c, breaks, widest => do
    let c ← skipIndent indent c.rounds (← c.need 1)
    let widest := max widest c.mark.column
    if inIndent indent c && c.sees 0 '\t' then throw (.ofToken context c.mark .tabIndent)
    if isBreak c.head then
      readBlockBreaks context indent rounds (← c.needBreak) (breaks.push (breakText c.head)) widest
    else return (c, breaks, widest)

/-- Read the lines of a block scalar. -/
def readBlockLines (literal : Bool) (context : Mark) (indent : Nat) :
    Nat → Cursor → Array Char → Option Char → Array Char → Bool →
      Except Error (Cursor × Array Char × Option Char × Array Char)
  | 0, c, text, lead, breaks, _ => .ok (c, text, lead, breaks)
  | rounds + 1, c, text, lead, breaks, leadBlank =>
    if c.mark.column ≠ indent || c.atEnd then .ok (c, text, lead, breaks)
    else do
      let blank := isBlank c.head
      let joint :=
        if !literal && !leadBlank && !blank && lead = some '\n' then
          (if breaks.isEmpty then #[' '] else #[])
        else lead.toArray
      let (line, c) ← c.span fun _ => true
      let text := text ++ joint ++ breaks ++ line
      let lead := if isBreak c.head then some (breakText c.head) else none
      let c ← c.needBreak
      let (c, breaks, _) ← readBlockBreaks context indent c.rounds c #[] 0
      readBlockLines literal context indent rounds c text lead breaks blank

/-- Read a block scalar from its sign on, inside a block of the given indentation. -/
def readBlock (literal : Bool) (outer : Int) (c : Cursor) : Except Error ScalarRead := do
  let context := c.mark
  let (chomp, increment, c) ← readBlockHead context c.skip
  let c ← c.skipWhile isBlank
  let c ← if c.sees 0 '#' then c.skipLine else pure c
  if !endsLine c.head then throw (.ofToken context c.mark .expectedLineEnd)
  let c ← if isBreak c.head then c.needBreak else pure c
  let given := if increment = 0 then 0 else outer.toNat + increment
  let (c, breaks, widest) ← readBlockBreaks context given c.rounds c #[] 0
  let indent := if given = 0 then max (max widest (outer + 1).toNat) 1 else given
  let (c, text, lead, breaks) ←
    readBlockLines literal context indent c.rounds c #[] none breaks false
  let text := if chomp = .strip then text else text ++ lead.toArray
  let text := if chomp = .keep then text ++ breaks else text
  return ⟨text, c, true⟩

end TapeDeck.Yaml
