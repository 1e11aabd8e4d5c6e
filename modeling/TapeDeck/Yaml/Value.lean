import TapeDeck.Text.Fraction
import TapeDeck.Text.Quoted
import TapeDeck.Yaml.Scalar

/-!
# Values of any shape

What a node stands for when nothing is known about its shape: an atom, a list, or a table with atoms
as keys. A table is kept in the order of its keys. Values are shown in messages, with the types of
lists and tables in front.
-/

namespace TapeDeck.Yaml

/-- A value that holds no others. -/
inductive Atom where
  | null
  | bool (b : Bool)
  | whole (n : Int)
  | fraction (x : Float)
  | moment (m : Moment)
  | text (bytes : Bytes)

/-- A value of any shape. -/
inductive Value where
  | atom (a : Atom)
  | list (items : List Value)
  /-- A table; the flag tells whether its keys can only be texts. -/
  | table (named : Bool) (entries : List (Atom × Value))

/-! ## Keys -/

namespace Atom

/-- The atom of a scalar. -/
def ofMeaning (m : Meaning) (bytes : Bytes) : Atom :=
  match m with
  | .null => null
  | .bool b => bool b
  | .int n => whole n
  | .large n => whole n
  | .float x => fraction x
  | .timestamp m => moment m
  | .text => text bytes

/-- The place of an atom's kind among the keys of a table. -/
def rank : Atom → Nat
  | null => 0
  | bool _ => 1
  | fraction _ => 2
  | whole n => if n < 0x8000000000000000 then 3 else 5
  | text _ => 4
  | moment _ => 6

/-- Whether an atom comes before another one of its kind. -/
def sameRankBefore : Atom → Atom → Bool
  | bool a, bool b => !a && b
  | whole a, whole b => a < b
  | fraction a, fraction b => if a.isNaN then !b.isNaN else a < b
  | text a, text b => a < b
  | moment a, moment b => a.order b = .lt
  | _, _ => false

/-- Whether two atoms are the same key. A fraction that is no number is the same as nothing. -/
def same : Atom → Atom → Bool
  | null, null => true
  | bool a, bool b => a = b
  | whole a, whole b => a = b
  | fraction a, fraction b => a == b
  | moment a, moment b => a.same b
  | text a, text b => a = b
  | _, _ => false

/-- Whether an atom comes before another one among the keys of a table. -/
def before (a b : Atom) : Bool :=
  a.rank < b.rank || (a.rank == b.rank && sameRankBefore a b)

end Atom

/-- Give a key of a table a value. -/
def insertEntry (key : Atom) (value : Value) : List (Atom × Value) → List (Atom × Value)
  | [] => [(key, value)]
  | (k, v) :: rest =>
    if k.same key then (key, value) :: rest
    else if key.before k then (key, value) :: (k, v) :: rest
    else (k, v) :: insertEntry key value rest

/-! ## Texts -/

/-- The names of the months. -/
def monthNames : List String :=
  ["January", "February", "March", "April", "May", "June", "July", "August", "September",
   "October", "November", "December"]

/-- The text of a zone. -/
def Zone.shown : Zone → String
  | universal => "time.UTC"
  | level => "time.Local"
  | shifted _ => "time.Location(\"\")"

/-- The text of a moment. -/
def Moment.shown (m : Moment) : String :=
  let numbers := [m.day, m.hour, m.minute, m.second, m.nanosecond].map toString
  "time.Date(" ++ ", ".intercalate
    ([toString m.year, "time." ++ (monthNames[m.month - 1]?).getD ""] ++ numbers ++
      [m.zone.shown]) ++ ")"

/-- The text of an atom. Whole numbers above the signed range are in hexadecimal. -/
def Atom.shown : Atom → String
  | null => "interface \x7b\x7d(nil)"
  | bool b => if b then "true" else "false"
  | whole n =>
    if n < 0x8000000000000000 then toString n else "0x" ++ String.ofList (Nat.toDigits 16 n.toNat)
  | fraction x => Text.fractionText x
  | moment m => m.shown
  | text bytes => Text.quoted bytes

namespace Value

/-- The type of lists. -/
def listType : String := "[]interface \x7b\x7d"

/-- The type of tables. -/
def tableType (named : Bool) : String :=
  "map[" ++ (if named then "string" else "interface \x7b\x7d") ++ "]interface \x7b\x7d"

mutual

/-- The text of a value. -/
def shown : Value → String
  | atom a => a.shown
  | list items => listType ++ "\x7b" ++ ", ".intercalate (shownItems items) ++ "\x7d"
  | table named entries =>
    tableType named ++ "\x7b" ++ ", ".intercalate (shownEntries entries) ++ "\x7d"

/-- The texts of the items of a list. -/
def shownItems : List Value → List String
  | [] => []
  | v :: rest => v.shown :: shownItems rest

/-- The texts of the entries of a table. -/
def shownEntries : List (Atom × Value) → List String
  | [] => []
  | (k, v) :: rest => (k.shown ++ ":" ++ v.shown) :: shownEntries rest

end

end Value

end TapeDeck.Yaml
