import TapeDeck.Text.Bytes

/-!
# What can be wrong with a YAML text

A problem is found while reading characters, cutting the text into tokens, putting tokens together
to nodes, or giving scalars their meaning. Problems of the middle two kinds name a line when it is
not the first.
-/

namespace TapeDeck.Yaml

/-- A place in a text: characters and lines before it, and characters before it in its line. -/
structure Mark where
  index : Nat
  line : Nat
  column : Nat
  deriving DecidableEq, Repr

/-- The start of a text. -/
def Mark.zero : Mark := ⟨0, 0, 0⟩

/-- What is wrong. -/
inductive Problem where
  /-- The text cannot be read at all. -/
  | unreadable (why : Bytes)
  -- characters
  | leadingOctet
  | incompleteOctets
  | trailingOctet
  | overlongOctets
  | invalidCharacter
  | incompleteUnit
  | unexpectedLowSurrogate
  | incompletePair
  | expectedLowSurrogate
  | controlCharacter
  -- tokens
  | expectedColon
  | entriesNotAllowed
  | keysNotAllowed
  | valuesNotAllowed
  | noTokenStart
  | expectedLineEnd
  | unknownDirective
  | expectedDirectiveName
  | nonAlphabetical
  | longVersion
  | expectedVersion
  | expectedDigitOrPoint
  | expectedBlank
  | expectedBlankOrBreak
  | expectedName
  | expectedAngle
  | expectedBang
  | expectedUri
  | uriOctet
  | uriLeadingOctet
  | uriTrailingOctet
  | tooDeep
  | zeroIndent
  | tabIndent
  | tabInScalar
  | documentIndicator
  | endOfText
  | unknownEscape
  | expectedHex
  | invalidEscape
  -- nodes
  | duplicateVersion
  | incompatibleVersion
  | duplicateTagDirective
  | expectedDocumentStart
  | undefinedHandle
  | expectedContent
  | expectedDash
  | expectedKey
  | expectedCommaOrBracket
  | expectedCommaOrBrace
  -- meaning
  | unknownAnchor (name : Bytes)
  | selfContained (name : Bytes)
  | cannotDecode (found value wanted : Bytes)
  | invalidBase64
  | mergeNeedsMap
  | unhashableKey (type : String)
  | invalidKey (key : String)
  | excessiveAliasing
  deriving DecidableEq, Repr

/-- The wording of a problem. -/
def Problem.message : Problem → Bytes
  | unreadable why => Bytes.ofString "input error: " ++ why
  | leadingOctet => Bytes.ofString "invalid leading UTF-8 octet"
  | incompleteOctets => Bytes.ofString "incomplete UTF-8 octet sequence"
  | trailingOctet => Bytes.ofString "invalid trailing UTF-8 octet"
  | overlongOctets => Bytes.ofString "invalid length of a UTF-8 sequence"
  | invalidCharacter => Bytes.ofString "invalid Unicode character"
  | incompleteUnit => Bytes.ofString "incomplete UTF-16 character"
  | unexpectedLowSurrogate => Bytes.ofString "unexpected low surrogate area"
  | incompletePair => Bytes.ofString "incomplete UTF-16 surrogate pair"
  | expectedLowSurrogate => Bytes.ofString "expected low surrogate area"
  | controlCharacter => Bytes.ofString "control characters are not allowed"
  | expectedColon => Bytes.ofString "could not find expected ':'"
  | entriesNotAllowed =>
    Bytes.ofString "block sequence entries are not allowed in this context"
  | keysNotAllowed => Bytes.ofString "mapping keys are not allowed in this context"
  | valuesNotAllowed => Bytes.ofString "mapping values are not allowed in this context"
  | noTokenStart => Bytes.ofString "found character that cannot start any token"
  | expectedLineEnd => Bytes.ofString "did not find expected comment or line break"
  | unknownDirective => Bytes.ofString "found unknown directive name"
  | expectedDirectiveName => Bytes.ofString "could not find expected directive name"
  | nonAlphabetical => Bytes.ofString "found unexpected non-alphabetical character"
  | longVersion => Bytes.ofString "found extremely long version number"
  | expectedVersion => Bytes.ofString "did not find expected version number"
  | expectedDigitOrPoint => Bytes.ofString "did not find expected digit or '.' character"
  | expectedBlank => Bytes.ofString "did not find expected whitespace"
  | expectedBlankOrBreak => Bytes.ofString "did not find expected whitespace or line break"
  | expectedName => Bytes.ofString "did not find expected alphabetic or numeric character"
  | expectedAngle => Bytes.ofString "did not find the expected '>'"
  | expectedBang => Bytes.ofString "did not find expected '!'"
  | expectedUri => Bytes.ofString "did not find expected tag URI"
  | uriOctet => Bytes.ofString "did not find URI escaped octet"
  | uriLeadingOctet => Bytes.ofString "found an incorrect leading UTF-8 octet"
  | uriTrailingOctet => Bytes.ofString "found an incorrect trailing UTF-8 octet"
  | tooDeep => Bytes.ofString "exceeded max depth of 10000"
  | zeroIndent => Bytes.ofString "found an indentation indicator equal to 0"
  | tabIndent =>
    Bytes.ofString "found a tab character where an indentation space is expected"
  | tabInScalar => Bytes.ofString "found a tab character that violates indentation"
  | documentIndicator => Bytes.ofString "found unexpected document indicator"
  | endOfText => Bytes.ofString "found unexpected end of stream"
  | unknownEscape => Bytes.ofString "found unknown escape character"
  | expectedHex => Bytes.ofString "did not find expected hexdecimal number"
  | invalidEscape => Bytes.ofString "found invalid Unicode character escape code"
  | duplicateVersion => Bytes.ofString "found duplicate %YAML directive"
  | incompatibleVersion => Bytes.ofString "found incompatible YAML document"
  | duplicateTagDirective => Bytes.ofString "found duplicate %TAG directive"
  | expectedDocumentStart => Bytes.ofString "did not find expected <document start>"
  | undefinedHandle => Bytes.ofString "found undefined tag handle"
  | expectedContent => Bytes.ofString "did not find expected node content"
  | expectedDash => Bytes.ofString "did not find expected '-' indicator"
  | expectedKey => Bytes.ofString "did not find expected key"
  | expectedCommaOrBracket => Bytes.ofString "did not find expected ',' or ']'"
  | expectedCommaOrBrace => Bytes.ofString "did not find expected ',' or '\x7d'"
  | unknownAnchor name =>
    Bytes.ofString "unknown anchor '" ++ name ++ Bytes.ofString "' referenced"
  | selfContained name =>
    Bytes.ofString "anchor '" ++ name ++ Bytes.ofString "' value contains itself"
  | cannotDecode found value wanted =>
    Bytes.ofString "cannot decode " ++ found ++ Bytes.ofString " `" ++ value ++
      Bytes.ofString "` as a " ++ wanted
  | invalidBase64 => Bytes.ofString "!!binary value contains invalid base64 data"
  | mergeNeedsMap =>
    Bytes.ofString "map merge requires map or sequence of maps as the value"
  | unhashableKey type => Bytes.ofString ("runtime error: hash of unhashable type " ++ type)
  | invalidKey key => Bytes.ofString ("invalid map key: " ++ key)
  | excessiveAliasing => Bytes.ofString "document contains excessive aliasing"

/-- A problem, and the line it is reported at. -/
structure Error where
  line : Option Nat
  problem : Problem
  deriving DecidableEq, Repr

namespace Error

/-- A problem that is not tied to a line. -/
def plain (p : Problem) : Error := ⟨none, p⟩

/-- The first of two lines that is not the first line of the text. -/
def lineOf (context here : Mark) : Option Nat :=
  if context.line ≠ 0 then some context.line
  else if here.line ≠ 0 then some here.line
  else none

/-- A problem with a token that began at `context`, found at `here`; lines count from one. -/
def ofToken (context here : Mark) (p : Problem) : Error :=
  ⟨(lineOf context here).map (· + 1), p⟩

/-- A problem with a node that began at `context`, found at `here`; the line named is the one
before. -/
def ofNode (context here : Mark) (p : Problem) : Error :=
  ⟨lineOf context here, p⟩

/-- The wording of an error. -/
def message (e : Error) : Bytes :=
  Bytes.ofString "yaml: " ++
    (match e.line with
     | some n => Bytes.ofString ("line " ++ toString n ++ ": ")
     | none => []) ++
    e.problem.message

end Error

end TapeDeck.Yaml
