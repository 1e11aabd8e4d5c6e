import Std.Data.HashMap
import TapeDeck.Yaml.ScalarText

/-!
# Tokens

A text is cut into tokens: indicators, scalars, anchors and tags, and the starts and ends of
blocks, which stand for changes of indentation. A key without an indicator of its own is noticed
only at the colon after it, so its token is put in front of tokens that are already there.

Tokens are cut off when they are asked for. `Scan.ready` has the next token and two more behind
it; when the next token may still turn out to start a key, it goes on until that is settled.
-/

namespace TapeDeck.Yaml

/-- How a scalar was written. -/
inductive ScalarStyle where
  | plain
  | quoted
  deriving DecidableEq, Repr

/-- What a token is. -/
inductive TokenKind where
  | streamStart
  | streamEnd
  | version (major minor : Nat)
  | tagDirective (handle : String) (uri : Bytes)
  | documentStart
  | documentEnd
  | blockSequenceStart
  | blockMappingStart
  | blockEnd
  | flowSequenceStart
  | flowSequenceEnd
  | flowMappingStart
  | flowMappingEnd
  | blockEntry
  | flowEntry
  | key
  | value
  | alias (name : String)
  | anchor (name : String)
  | tag (handle : String) (suffix : Bytes)
  | scalar (style : ScalarStyle) (text : List Char)
  deriving DecidableEq, Repr

/-- A token and the places where it starts and ends. -/
structure Token where
  kind : TokenKind
  start : Mark
  stop : Mark
  deriving Repr

/-- A place where a key may have started. -/
structure SimpleKey where
  /-- Whether it still may have. -/
  possible : Bool
  /-- Whether nothing but a key can stand here. -/
  required : Bool
  /-- How many tokens came before. -/
  position : Nat
  mark : Mark

/-- A text that has been cut up to the cursor. -/
structure Scan where
  cursor : Cursor
  tokens : Array Token
  /-- How many of the tokens have been used. -/
  taken : Nat
  /-- How many flow collections are open. -/
  flow : Nat
  /-- The indentation of the innermost block; before the first, one less than zero. -/
  indent : Int
  /-- The indentations of the blocks around it. -/
  outer : List Int
  /-- Whether a key without an indicator may start here. -/
  keyAllowed : Bool
  /-- The last possible key of the block, and of each open flow collection, innermost last. -/
  keys : Array SimpleKey
  /-- The level of the possible key that starts with each token. -/
  awaited : Std.HashMap Nat Nat

namespace Scan

/-- The start of a text. -/
def start (text : Bytes) : Scan where
  cursor := Cursor.start text
  tokens := #[]
  taken := 0
  flow := 0
  indent := -1
  outer := []
  keyAllowed := true
  keys := #[⟨false, false, 0, .zero⟩]
  awaited := {}

/-- The current place. -/
def mark (s : Scan) : Mark := s.cursor.mark

/-- Add a token that starts at `start` and ends at the cursor. -/
def push (s : Scan) (kind : TokenKind) (start : Mark) : Scan :=
  { s with tokens := s.tokens.push ⟨kind, start, s.mark⟩ }

/-- Add the token of the next `n` characters. -/
def pushIndicator (s : Scan) (kind : TokenKind) (n : Nat) : Scan :=
  { s with cursor := s.cursor.skipN n }.push kind s.mark

/-- Put an empty token in front of the token of a number, or last if that one has been used. -/
def insert (s : Scan) (position : Nat) (kind : TokenKind) (mark : Mark) : Scan :=
  let token : Token := ⟨kind, mark, mark⟩
  if position < s.taken then { s with tokens := s.tokens.push token }
  else { s with tokens := s.tokens.insertIdxIfInBounds position token }

/-- How deep blocks and flow collections may be nested. -/
def maxDepth : Nat := 10000

/-! ## Possible keys -/

/-- Whether a key that started at `k` can still end here: on the same line, and not too far. -/
def fresh (s : Scan) (k : SimpleKey) : Bool :=
  !(k.mark.line < s.mark.line || k.mark.index + 1024 < s.mark.index)

/-- The possible key of a level. -/
def keyAt (s : Scan) (level : Nat) : SimpleKey :=
  s.keys.getD level ⟨false, false, 0, .zero⟩

/-- The current level. -/
def level (s : Scan) : Nat := s.keys.size - 1

/-- The possible key of the current level. -/
def key (s : Scan) : SimpleKey := s.keyAt s.level

/-- Set the possible key of a level. -/
def setKey (s : Scan) (level : Nat) (k : SimpleKey) : Scan :=
  { s with keys := s.keys.setIfInBounds level k }

/-- Whether a key that may have started on a level may end here. If it may not, it is no longer
possible, which is wrong of one that is required. -/
def settleKey (s : Scan) (level : Nat) : Except Error (Scan × Bool) :=
  let k := s.keyAt level
  if !k.possible then .ok (s, false)
  else if s.fresh k then .ok (s, true)
  else if k.required then .error (.ofToken k.mark s.mark .expectedColon)
  else .ok (s.setKey level { k with possible := false }, false)

/-- Give up the possible key; one that is required cannot be given up. -/
def dropKey (s : Scan) : Except Error Scan :=
  let k := s.key
  if !k.possible then .ok s
  else if k.required then .error (.ofToken k.mark s.mark .expectedColon)
  else
    let s := s.setKey s.level { k with possible := false }
    .ok { s with awaited := s.awaited.erase k.position }

/-- Note that a key may start here. -/
def saveKey (s : Scan) : Except Error Scan :=
  if s.keyAllowed then do
    let required := s.flow = 0 && s.indent = s.mark.column
    let s ← s.dropKey
    let position := s.tokens.size
    return { s.setKey s.level ⟨true, required, position, s.mark⟩ with
      awaited := s.awaited.insert position s.level }
  else .ok s

/-! ## Indentation -/

/-- Open a block at `column` if it is deeper than the current one; its token goes to the given
position, or last. -/
def openBlock (s : Scan) (column : Nat) (position : Option Nat) (kind : TokenKind) (mark : Mark) :
    Except Error Scan :=
  if s.flow = 0 && s.indent < column then
    let outer := s.indent :: s.outer
    if outer.length > maxDepth then .error (.ofToken s.key.mark s.mark .tooDeep)
    else .ok ({ s with outer, indent := column }.insert (position.getD s.tokens.size) kind mark)
  else .ok s

/-- Close blocks that are deeper than `column`, from the innermost outwards. -/
def closeBlocksFrom (column : Int) (mark : Mark) : List Int → Int → Array Token →
    List Int × Int × Array Token
  | [], indent, tokens => ([], indent, tokens)
  | o :: outer, indent, tokens =>
    if column < indent then
      closeBlocksFrom column mark outer o (tokens.push ⟨.blockEnd, mark, mark⟩)
    else (o :: outer, indent, tokens)

/-- Close blocks that are deeper than `column`; they end at `mark`. -/
def closeBlocks (s : Scan) (column : Int) (mark : Mark) : Scan :=
  if s.flow = 0 then
    let (outer, indent, tokens) := closeBlocksFrom column mark s.outer s.indent s.tokens
    { s with outer, indent, tokens }
  else s

/-! ## Space between tokens -/

/-- Go to the next token. A new line may start with a key; a tab is space only where none may.
While a byte order mark leads the characters held, each line loses its first character. -/
def toToken : Nat → Scan → Except Error Scan
  | 0, s => .ok s
  | rounds + 1, s => do
    let c ← s.cursor.need 1
    let c := if c.mark.column = 0 && c.marked then c.skip else c
    let c ← c.skipWhile fun ch => ch = ' ' || ((s.flow > 0 || !s.keyAllowed) && ch = '\t')
    let c ← if c.sees 0 '#' then c.skipComments c.rounds else pure c
    if isBreak c.head then
      toToken rounds
        { s with
          cursor := ← c.needBreak
          keyAllowed := if s.flow = 0 then true else s.keyAllowed }
    else return { s with cursor := c }

/-! ## Indicators -/

/-- The end of the text. -/
def endStream (s : Scan) : Except Error Scan := do
  let m := s.mark
  let m : Mark := if m.column = 0 then m else ⟨m.index, m.line + 1, 0⟩
  let s ← ({ s with cursor := { s.cursor with mark := m } }.closeBlocks (-1) m).dropKey
  return { s with keyAllowed := false }.push .streamEnd m

/-- The start or the end of a document. -/
def documentMarker (s : Scan) (kind : TokenKind) : Except Error Scan := do
  let s ← (s.closeBlocks (-1) s.mark).dropKey
  return { s with keyAllowed := false }.pushIndicator kind 3

/-- The start of a flow collection, which may itself be a key. -/
def openFlow (s : Scan) (kind : TokenKind) : Except Error Scan := do
  let s ← s.saveKey
  let keys := s.keys.push ⟨false, false, s.tokens.size, s.mark⟩
  if s.flow + 1 > maxDepth then throw (.ofToken s.mark s.mark .tooDeep)
  return { s with keys, flow := s.flow + 1, keyAllowed := true }.pushIndicator kind 1

/-- The end of a flow collection. -/
def closeFlow (s : Scan) (kind : TokenKind) : Except Error Scan := do
  let s ← s.dropKey
  let s :=
    if s.flow > 0 then
      { s with
        keys := s.keys.pop
        awaited := s.awaited.erase s.key.position
        flow := s.flow - 1 }
    else s
  return { s with keyAllowed := false }.pushIndicator kind 1

/-- A comma between the items of a flow collection. -/
def flowEntry (s : Scan) : Except Error Scan := do
  let s ← s.dropKey
  return { s with keyAllowed := true }.pushIndicator .flowEntry 1

/-- The dash before an item of a block sequence. -/
def blockEntry (s : Scan) : Except Error Scan := do
  if s.flow = 0 && !s.keyAllowed then throw (.ofToken s.mark s.mark .entriesNotAllowed)
  let s ← s.openBlock s.mark.column none .blockSequenceStart s.mark
  let s ← s.dropKey
  return { s with keyAllowed := true }.pushIndicator .blockEntry 1

/-- The question mark before a key. -/
def explicitKey (s : Scan) : Except Error Scan := do
  if s.flow = 0 && !s.keyAllowed then throw (.ofToken s.mark s.mark .keysNotAllowed)
  let s ← s.openBlock s.mark.column none .blockMappingStart s.mark
  let s ← s.dropKey
  return { s with keyAllowed := s.flow = 0 }.pushIndicator .key 1

/-- The colon before a value. If a key without an indicator ends here, its token goes in front of
it. -/
def valueIndicator (s : Scan) : Except Error Scan := do
  let k := s.key
  match ← s.settleKey s.level with
  | (s, true) =>
    let s ← (s.insert k.position .key k.mark).openBlock k.mark.column (some k.position)
      .blockMappingStart k.mark
    return { s.setKey s.level { k with possible := false } with
      awaited := s.awaited.erase k.position
      keyAllowed := false }.pushIndicator .value 1
  | (s, false) =>
    if s.flow = 0 && !s.keyAllowed then throw (.ofToken s.mark s.mark .valuesNotAllowed)
    let s ← s.openBlock s.mark.column none .blockMappingStart s.mark
    return { s with keyAllowed := s.flow = 0 }.pushIndicator .value 1

/-! ## Names, tags and directives -/

/-- Letters, digits, hyphen and underscore, of ASCII. -/
def isNameChar (c : Char) : Bool :=
  c.isAlphanum || c = '_' || c = '-'

/-- An anchor or an alias. -/
def anchorOrAlias (s : Scan) (kind : String → TokenKind) : Except Error Scan := do
  let s ← s.saveKey
  let start := s.mark
  let (name, c) ← s.cursor.skip.span isNameChar
  let ends := isSpace c.head || ("?:,]\x7d%@\x60".toList.contains c.head)
  if name.isEmpty || !ends then throw (.ofToken start c.mark .expectedName)
  return { s with cursor := c, keyAllowed := false }.push (kind (String.ofList name)) start

/-- Characters that a tag may hold, all of them of ASCII. -/
def isUriChar (c : Char) : Bool :=
  isNameChar c || (";/?:@&=+$.,!~*'()[]%".toList.contains c)

/-- The bytes of ASCII characters. -/
def asciiBytes (cs : List Char) : Bytes := cs.map fun c => c.toNat.toUInt8

/-- Read the byte of a percent escape. -/
def uriOctet (context : Mark) (c : Cursor) : Except Error (UInt8 × Cursor) := do
  let c ← c.need 3
  match hexNumber? [c.peek 1, c.peek 2] with
  | some n =>
    if c.sees 0 '%' then return (n.toUInt8, c)
    else throw (.ofToken context c.mark .uriOctet)
  | none => throw (.ofToken context c.mark .uriOctet)

/-- Read percent escapes that go on with a character. -/
def uriContinuation (context : Mark) : Nat → Cursor → Bytes → Except Error (Bytes × Cursor)
  | 0, c, text => .ok (text, c)
  | n + 1, c, text => do
    let (b, c) ← uriOctet context c
    if !isContinuation b then throw (.ofToken context c.mark .uriTrailingOctet)
    uriContinuation context n (c.skipN 3) (text ++ [b])

/-- Read the percent escapes of a character. Only the number of its bytes is checked. -/
def uriEscape (context : Mark) (c : Cursor) : Except Error (Bytes × Cursor) := do
  let (b, c) ← uriOctet context c
  match octetWidth b with
  | none => throw (.ofToken context c.mark .uriLeadingOctet)
  | some (width, _) => uriContinuation context (width - 1) (c.skipN 3) [b]

/-- Read the characters of a tag. -/
def readUriFrom (context : Mark) : Nat → Cursor → Bytes → Except Error (Bytes × Cursor)
  | 0, c, text => .ok (text, c)
  | rounds + 1, c, text =>
    if c.sees 0 '%' then do
      let (escaped, c) ← uriEscape context c
      readUriFrom context rounds (← c.need 1) (text ++ escaped)
    else if isUriChar c.head then do
      readUriFrom context rounds (← c.skip.need 1) (text ++ asciiBytes [c.head])
    else .ok (text, c)

/-- Read the characters of a tag, after those of `text`. -/
def readUri (context : Mark) (c : Cursor) (text : Bytes) : Except Error (Bytes × Cursor) := do
  let c ← c.need 1
  readUriFrom context c.rounds c text

/-- Read the characters of a tag, of which there must be some. -/
def readSomeUri (context : Mark) (c : Cursor) : Except Error (Bytes × Cursor) := do
  let (uri, c) ← readUri context c []
  if uri.isEmpty then throw (.ofToken context c.mark .expectedUri)
  return (uri, c)

/-- Read the handle of a tag: a bang, a name, and perhaps another bang. -/
def readHandle (directive : Bool) (context : Mark) (c : Cursor) :
    Except Error (List Char × Cursor) := do
  let c ← c.need 1
  if !c.sees 0 '!' then throw (.ofToken context c.mark .expectedBang)
  let (name, c) ← c.skip.span isNameChar
  if c.sees 0 '!' then return ('!' :: name ++ ['!'], c.skip)
  if directive && !name.isEmpty then throw (.ofToken context c.mark .expectedBang)
  return ('!' :: name, c)

/-- A tag: verbatim, with a handle, or with the bang alone. -/
def tagToken (s : Scan) : Except Error Scan := do
  let s ← s.saveKey
  let context := s.mark
  let c ← s.cursor.need 2
  let (handle, suffix, c) ←
    if c.sees 1 '<' then do
      let (uri, c) ← readSomeUri context (c.skipN 2)
      if !c.sees 0 '>' then throw (.ofToken context c.mark .expectedAngle)
      pure ("", uri, c.skip)
    else do
      let (handle, c) ← readHandle false context c
      if handle.length > 1 && handle.getLast? = some '!' then
        let (uri, c) ← readSomeUri context c
        pure (String.ofList handle, uri, c)
      else
        let (uri, c) ← readUri context c (asciiBytes handle.tail)
        pure (if uri.isEmpty then ("", asciiBytes ['!'], c) else ("!", uri, c))
  let c ← c.need 1
  if !isSpace c.head then throw (.ofToken context c.mark .expectedBlankOrBreak)
  return { s with cursor := c, keyAllowed := false }.push (.tag handle suffix) context

/-- Read the digits of a version number, of which there are at most two. -/
def versionDigits (context : Mark) : Nat → Cursor → Nat → Except Error (Nat × Cursor)
  | 0, c, n =>
    if c.head.isDigit then .error (.ofToken context c.mark .longVersion) else .ok (n, c)
  | left + 1, c, n =>
    if c.head.isDigit then do
      versionDigits context left (← c.skip.need 1) (n * 10 + (c.head.toNat - '0'.toNat))
    else .ok (n, c)

/-- A number of a version directive. -/
def versionNumber (context : Mark) (c : Cursor) : Except Error (Nat × Cursor) := do
  let c ← c.need 1
  if !c.head.isDigit then throw (.ofToken context c.mark .expectedVersion)
  versionDigits context 2 c 0

/-- The value of a directive. -/
def directiveValue (context : Mark) (name : List Char) (c : Cursor) :
    Except Error (TokenKind × Cursor) := do
  if name = "YAML".toList then
    let (major, c) ← versionNumber context (← c.skipWhile isBlank)
    if !c.sees 0 '.' then throw (.ofToken context c.mark .expectedDigitOrPoint)
    let (minor, c) ← versionNumber context c.skip
    return (.version major minor, c)
  else if name = "TAG".toList then
    let (handle, c) ← readHandle true context (← c.skipWhile isBlank)
    let c ← c.need 1
    if !isBlank c.head then throw (.ofToken context c.mark .expectedBlank)
    let (uri, c) ← readSomeUri context (← c.skipWhile isBlank)
    if !isSpace c.head then throw (.ofToken context c.mark .expectedBlankOrBreak)
    return (.tagDirective (String.ofList handle) uri, c)
  else throw (.ofToken context c.mark .unknownDirective)

/-- A directive line. -/
def directive (s : Scan) : Except Error Scan := do
  let s ← (s.closeBlocks (-1) s.mark).dropKey
  let context := s.mark
  let (name, c) ← s.cursor.skip.span isNameChar
  if name.isEmpty then throw (.ofToken context c.mark .expectedDirectiveName)
  if !isSpace c.head then throw (.ofToken context c.mark .nonAlphabetical)
  let (kind, c) ← directiveValue context name c
  let s := { s with cursor := c, keyAllowed := false }.push kind context
  let c ← c.skipWhile isBlank
  let c ← if c.sees 0 '#' then c.skipLine else pure c
  if !endsLine c.head then throw (.ofToken context c.mark .expectedLineEnd)
  return { s with cursor := ← if isBreak c.head then c.needBreak else pure c }

/-! ## Scalars -/

/-- A plain or quoted scalar, which may be a key. -/
def flowScalar (s : Scan) (style : ScalarStyle) (read : Cursor → Except Error ScalarRead) :
    Except Error Scan := do
  let s ← s.saveKey
  let r ← read s.cursor
  return { s with cursor := r.cursor, keyAllowed := r.endsLine }.push
    (.scalar style r.text.toList) s.mark

/-- A block scalar, which is never a key. -/
def blockScalar (s : Scan) (literal : Bool) : Except Error Scan := do
  let s ← s.dropKey
  let r ← readBlock literal s.indent s.cursor
  return { s with cursor := r.cursor, keyAllowed := true }.push
    (.scalar .quoted r.text.toList) s.mark

/-- Whether a plain scalar may start here. Most indicators cannot start one; a dash can before
anything but a blank, and outside flow collections so can a question mark and a colon. -/
def startsPlain (s : Scan) : Bool :=
  let ch := s.cursor.head
  !(isSpace ch || ("-?:,[]\x7b\x7d#&*!|>'\"%@\x60".toList.contains ch)) ||
    (ch = '-' && !isBlank (s.cursor.peek 1)) ||
    (s.flow = 0 && (ch = '?' || ch = ':') && !isSpace (s.cursor.peek 1))

/-- The token that the cursor stands at. -/
def contentToken (s : Scan) : Except Error Scan :=
  let c := s.cursor
  if c.sees 0 '[' then s.openFlow .flowSequenceStart
  else if c.sees 0 '\x7b' then s.openFlow .flowMappingStart
  else if c.sees 0 ']' then s.closeFlow .flowSequenceEnd
  else if c.sees 0 '\x7d' then s.closeFlow .flowMappingEnd
  else if c.sees 0 ',' then s.flowEntry
  else if c.sees 0 '-' && isSpace (c.peek 1) then s.blockEntry
  else if c.sees 0 '?' && (s.flow > 0 || isSpace (c.peek 1)) then s.explicitKey
  else if c.sees 0 ':' && (s.flow > 0 || isSpace (c.peek 1)) then s.valueIndicator
  else if c.sees 0 '*' then s.anchorOrAlias .alias
  else if c.sees 0 '&' then s.anchorOrAlias .anchor
  else if c.sees 0 '!' then s.tagToken
  else if c.sees 0 '|' && s.flow = 0 then s.blockScalar true
  else if c.sees 0 '>' && s.flow = 0 then s.blockScalar false
  else if c.sees 0 '\x27' then s.flowScalar .quoted (readQuoted true)
  else if c.sees 0 '"' then s.flowScalar .quoted (readQuoted false)
  else if s.startsPlain then s.flowScalar .plain (readPlain (s.flow > 0) s.indent)
  else .error (.ofToken s.mark s.mark .noTokenStart)

/-- Cut off the next token. -/
def next (s : Scan) : Except Error Scan := do
  let c ← s.cursor.need 1
  let s := { s with cursor := c }
  if s.tokens.isEmpty then return s.push .streamStart s.mark
  let before := s.mark
  let s ← toToken c.rounds s
  let s := s.closeBlocks s.mark.column before
  let c ← s.cursor.need 4
  let s := { s with cursor := c }
  if c.atEnd then s.endStream
  else if s.mark.column = 0 && c.sees 0 '%' then s.directive
  else if c.marker '-' then s.documentMarker .documentStart
  else if c.marker '.' then s.documentMarker .documentEnd
  else
    let s ← s.contentToken
    match s.tokens.back? with
    | some ⟨.blockEntry, _, _⟩ => return s
    | _ => return { s with cursor := ← s.cursor.skipLineComment }

/-- Cut off tokens until the next one is settled: two more are behind it, and no key can start in
front of it any more. -/
def readyFrom : Nat → Scan → Except Error Scan
  | 0, s => .ok s
  | rounds + 1, s => do
    if s.taken + 2 < s.tokens.size then
      match s.awaited[s.taken]? with
      | none => return s
      | some level =>
        match ← s.settleKey level with
        | (s, false) => return s
        | (s, true) => readyFrom rounds (← s.next)
    else readyFrom rounds (← s.next)

/-- Have the next token settled. -/
def ready (s : Scan) : Except Error Scan := readyFrom s.cursor.rounds s

/-- Use up the next token. -/
def take (s : Scan) : Scan := { s with taken := s.taken + 1 }

end Scan

end TapeDeck.Yaml
