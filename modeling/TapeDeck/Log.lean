import TapeDeck.Duration
import TapeDeck.Text.Quoted

/-!
# Log lines

A log entry has a level, a message and named values, and is written on one line as pairs of a name
and a text. A text that could be mistaken for something else is quoted; numbers and durations never
are.
-/

namespace TapeDeck.Log

/-- How much an entry matters. -/
inductive Level where
  | debug
  | info
  | error
  deriving DecidableEq, Repr

/-- The name of a level. -/
def Level.name : Level → String
  | debug => "DEBUG"
  | info => "INFO"
  | error => "ERROR"

/-- A value of an entry. -/
inductive Value where
  | text (bs : Bytes)
  | number (n : Int)
  | duration (d : Duration)
  deriving DecidableEq, Repr

/-- A log entry. -/
structure Entry where
  level : Level
  message : String
  values : List (String × Value)
  deriving DecidableEq, Repr

/-- Whether a character calls for quotes. The delete character and the backslash do not. -/
def callsForQuotes (c : Char) : Bool :=
  if c.toNat < 0x80 then c ≤ ' ' || c = '=' || c = '"'
  else c = Utf8.replacement || !Text.isPrintable c

/-- Whether a piece of a text calls for quotes. -/
def pieceCallsForQuotes : Utf8.Piece → Bool
  | .char c _ => callsForQuotes c
  | .bad _ => true

/-- A text as it stands in a line. -/
def shownText (bs : Bytes) : Bytes :=
  if bs.isEmpty || (Utf8.pieces bs).any pieceCallsForQuotes then Bytes.ofString (Text.quoted bs)
  else bs

/-- A value as it stands in a line. -/
def Value.shown : Value → Bytes
  | text bs => shownText bs
  | number n => Bytes.ofString (toString n)
  | duration d => Bytes.ofString d.text

/-- A name and its value as they stand in a line. -/
def pair (name : String) (v : Value) : Bytes :=
  Bytes.ofString name ++ Bytes.ofString "=" ++ v.shown

/-- The values of a line: the level and the message, then those of the entry. -/
def Entry.allValues (e : Entry) : List (String × Value) :=
  ("level", .text (Bytes.ofString e.level.name)) :: ("msg", .text (Bytes.ofString e.message)) ::
    e.values

/-- The line of an entry. -/
def Entry.line (e : Entry) : Bytes :=
  (Bytes.ofString " ").intercalate (e.allValues.map fun (name, v) => pair name v) ++
    Bytes.ofString "\n"

/-- Whether an entry is kept when only `info` and above are. -/
def Entry.isPlain (e : Entry) : Bool :=
  e.level != .debug

end TapeDeck.Log
