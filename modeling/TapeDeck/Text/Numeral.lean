/-!
# Reading whole numbers

A number has an optional sign and digits, which may carry a prefix for the base (`0x`, `0o`, `0b`,
or a bare `0` for octal) and single underscores between digits. Values are kept to 64 bits; a
number that leaves them is told apart from a text that is no number.
-/

namespace TapeDeck.Text

/-- Why a text is not a number. -/
inductive NumeralError where
  | malformed
  | outOfRange
  deriving DecidableEq, Repr

/-- The greatest unsigned 64-bit number. -/
def maxUnsigned : Nat := 0xFFFFFFFFFFFFFFFF

/-- The greatest signed 64-bit number. -/
def maxSigned : Nat := 0x7FFFFFFFFFFFFFFF

/-- The value of a digit in any base up to 36. -/
def digitValue? (c : Char) : Option Nat :=
  if '0' ≤ c ∧ c ≤ '9' then some (c.toNat - '0'.toNat)
  else if 'a' ≤ c ∧ c ≤ 'z' then some (c.toNat - 'a'.toNat + 10)
  else if 'A' ≤ c ∧ c ≤ 'Z' then some (c.toNat - 'A'.toNat + 10)
  else none

/-- The value of digits after those of `n`. A number that grows too large is out of range, whatever
comes after. -/
def readDigits (base : Nat) (underscores : Bool) : List Char → Nat → Except NumeralError Nat
  | [], n => .ok n
  | c :: rest, n =>
    if underscores && c = '_' then readDigits base underscores rest n
    else
      match digitValue? c with
      | some d =>
        if d < base then
          if n * base + d > maxUnsigned then .error .outOfRange
          else readDigits base underscores rest (n * base + d)
        else .error .malformed
      | none => .error .malformed

/-- Whether every underscore stands between two digits. The flag tells whether a digit came just
before. -/
def underscoresSeparate : Bool → List Char → Bool
  | _, [] => true
  | before, '_' :: rest =>
    before && !(rest.isEmpty || rest.head? = some '_') && underscoresSeparate false rest
  | _, _ :: rest => underscoresSeparate true rest

/-- The base that a prefix names, the digits after it, and whether there was a prefix. -/
def splitBase (s : List Char) : Nat × List Char × Bool :=
  match s with
  | '0' :: p :: d :: rest =>
    if p = 'b' ∨ p = 'B' then (2, d :: rest, true)
    else if p = 'o' ∨ p = 'O' then (8, d :: rest, true)
    else if p = 'x' ∨ p = 'X' then (16, d :: rest, true)
    else (8, p :: d :: rest, true)
  | '0' :: rest => (8, rest, true)
  | _ => (10, s, false)

/-- An unsigned number, with a prefix and underscores allowed. -/
def readUnsigned (s : List Char) : Except NumeralError Nat :=
  if s.isEmpty then .error .malformed
  else
    let (base, digits, prefixed) := splitBase s
    match readDigits base true digits 0 with
    | .ok n => if underscoresSeparate prefixed digits then .ok n else .error .malformed
    | .error e => .error e

/-- An unsigned number in a given base, digits only. -/
def readUnsignedIn (base : Nat) (s : List Char) : Except NumeralError Nat :=
  if s.isEmpty then .error .malformed else readDigits base false s 0

/-- A number with an optional sign in front. -/
def readSigned (unsigned : List Char → Except NumeralError Nat) (s : List Char) :
    Except NumeralError Int :=
  let (negative, digits) :=
    match s with
    | '+' :: rest => (false, rest)
    | '-' :: rest => (true, rest)
    | _ => (false, s)
  match unsigned digits with
  | .error e => .error e
  | .ok n =>
    if negative then (if n > maxSigned + 1 then .error .outOfRange else .ok (-(n : Int)))
    else if n > maxSigned then .error .outOfRange
    else .ok (n : Int)

/-- A signed number, with a prefix and underscores allowed. -/
def readInt (s : List Char) : Except NumeralError Int :=
  readSigned readUnsigned s

end TapeDeck.Text
