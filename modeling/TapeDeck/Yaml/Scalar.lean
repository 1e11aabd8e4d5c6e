import TapeDeck.Text.Numeral
import TapeDeck.Yaml.Error
import TapeDeck.Yaml.Timestamp

/-!
# What scalars mean

A plain scalar is a null, a truth value, a number or a timestamp if it looks like one, and a text
otherwise. A tag in front of a scalar asks for one of these; a scalar that is something else is
refused, except that a whole number will do for a fraction. A tag of any other name says nothing
about the text.
-/

namespace TapeDeck.Yaml

/-! ## Tags -/

/-- What a node is said to be. -/
inductive Tag where
  | null
  | bool
  | int
  | float
  | timestamp
  | str
  | binary
  | merge
  | seq
  | map
  /-- A tag of any other name. -/
  | other (name : Bytes)
  deriving DecidableEq, Repr

namespace Tag

/-- The short name of a tag. -/
def name : Tag → Bytes
  | null => Bytes.ofString "!!null"
  | bool => Bytes.ofString "!!bool"
  | int => Bytes.ofString "!!int"
  | float => Bytes.ofString "!!float"
  | timestamp => Bytes.ofString "!!timestamp"
  | str => Bytes.ofString "!!str"
  | binary => Bytes.ofString "!!binary"
  | merge => Bytes.ofString "!!merge"
  | seq => Bytes.ofString "!!seq"
  | map => Bytes.ofString "!!map"
  | other name => name

/-- The tag of a short name. -/
def ofName (name : Bytes) : Tag :=
  let standard := [null, bool, int, float, timestamp, str, binary, merge, seq, map]
  (standard.find? (·.name = name)).getD (.other name)

/-- The address that the double bang stands for. -/
def address : Bytes := Bytes.ofString "tag:yaml.org,2002:"

/-- The tag of a full name; the double bang is short for the address. -/
def ofFullName (full : Bytes) : Tag :=
  if address.isPrefixOf full then ofName (Bytes.ofString "!!" ++ full.drop address.length)
  else ofName full

/-- Tags that ask for a meaning. -/
def asksMeaning : Tag → Bool
  | null | bool | int | float | timestamp => true
  | _ => false

end Tag

/-- What a scalar means. -/
inductive Meaning where
  | null
  | bool (b : Bool)
  | int (n : Int)
  /-- A whole number above the signed 64-bit range. -/
  | large (n : Nat)
  | float (x : Float)
  | timestamp (m : Moment)
  | text

/-- The tag of a meaning. -/
def Meaning.tag : Meaning → Tag
  | null => .null
  | bool _ => .bool
  | int _ => .int
  | large _ => .int
  | float _ => .float
  | timestamp _ => .timestamp
  | text => .str

/-! ## Numbers with a fraction -/

/-- A decimal number: its digits as one number, and the power of ten they are multiplied by. -/
structure Decimal where
  negative : Bool
  digits : Nat
  exponent : Int
  deriving DecidableEq, Repr

/-- Digits read as a decimal number, after those of `n`. -/
def decimalDigits (n : Nat) (cs : List Char) : Nat :=
  cs.foldl (fun n d => n * 10 + (d.toNat - '0'.toNat)) n

/-- The exponent of a decimal number, or nothing at all. -/
def exponent? (s : List Char) : Option Int :=
  match s with
  | [] => some 0
  | e :: rest =>
    if e = 'e' ∨ e = 'E' then
      let (negative, digits) :=
        match rest with
        | '+' :: digits => (false, digits)
        | '-' :: digits => (true, digits)
        | _ => (false, rest)
      if digits.isEmpty || !digits.all Char.isDigit then none
      else
        let n : Int := decimalDigits 0 digits
        some (if negative then -n else n)
    else none

/-- A decimal number: a sign, digits with at most one point among them, an exponent. -/
def decimal? (s : List Char) : Option Decimal :=
  let (negative, s) :=
    match s with
    | '+' :: rest => (false, rest)
    | '-' :: rest => (true, rest)
    | _ => (false, s)
  let whole := s.takeWhile Char.isDigit
  let s := s.dropWhile Char.isDigit
  let (part, s) :=
    match s with
    | '.' :: rest => (rest.takeWhile Char.isDigit, rest.dropWhile Char.isDigit)
    | _ => ([], s)
  if whole.isEmpty && part.isEmpty then none
  else (exponent? s).map fun e =>
    ⟨negative, decimalDigits (decimalDigits 0 whole) part, e - part.length⟩

/-- The nearest binary fraction of 64 bits; none beyond their range. -/
def Decimal.toFloat? (d : Decimal) : Option Float :=
  let size : Int := (toString d.digits).length + d.exponent
  let x : Float :=
    if d.digits = 0 ∨ size < -400 then 0.0
    else if size > 400 then 1.0 / 0.0
    else if d.exponent < 0 then Float.ofScientific d.digits true d.exponent.natAbs
    else Float.ofScientific d.digits false d.exponent.natAbs
  if x.isInf then none else some (if d.negative then -x else x)

/-! ## Plain scalars -/

/-- Scalars that are looked up whole. -/
def wordMeaning? (text : String) : Option Meaning :=
  match text with
  | "true" | "True" | "TRUE" => some (.bool true)
  | "false" | "False" | "FALSE" => some (.bool false)
  | "" | "~" | "null" | "Null" | "NULL" => some .null
  | ".nan" | ".NaN" | ".NAN" => some (.float (0.0 / 0.0))
  | ".inf" | ".Inf" | ".INF" | "+.inf" | "+.Inf" | "+.INF" => some (.float (1.0 / 0.0))
  | "-.inf" | "-.Inf" | "-.INF" => some (.float (-1.0 / 0.0))
  | _ => none

/-- A whole number in the signed or the unsigned 64-bit range. -/
def wholeMeaning? (signed : Except Text.NumeralError Int)
    (unsigned : Except Text.NumeralError Nat) : Option Meaning :=
  match signed, unsigned with
  | .ok n, _ => some (.int n)
  | .error _, .ok n => some (.large n)
  | .error _, .error _ => none

/-- A number whose prefix is followed by a sign. -/
def prefixedMeaning? (s : List Char) : Option Meaning :=
  match s with
  | '0' :: 'b' :: rest => inBase 2 rest
  | '0' :: 'o' :: rest => inBase 8 rest
  | '-' :: '0' :: 'b' :: rest => negative 2 rest
  | '-' :: '0' :: 'o' :: rest => negative 8 rest
  | _ => none
where
  /-- Digits of a base, with a sign of their own. -/
  inBase (base : Nat) (rest : List Char) : Option Meaning :=
    wholeMeaning? (Text.readSigned (Text.readUnsignedIn base) rest) (Text.readUnsignedIn base rest)
  /-- Digits of a base after a minus. -/
  negative (base : Nat) (rest : List Char) : Option Meaning :=
    match Text.readSigned (Text.readUnsignedIn base) ('-' :: rest) with
    | .ok n => some (.int n)
    | .error _ => none

/-- Whether every underscore stands between two digits; the first argument is the character
before. -/
def separatesDigits : Char → List Char → Bool
  | before, [] => before ≠ '_'
  | before, c :: rest =>
    (if c = '_' then before.isDigit else before ≠ '_' || c.isDigit) && separatesDigits c rest

/-- What a scalar means that starts with a point; underscores may separate its digits. -/
def fractionMeaning? (text : List Char) : Option Meaning :=
  if separatesDigits ' ' text then
    ((decimal? (text.filter (· ≠ '_'))).bind Decimal.toFloat?).map Meaning.float
  else none

/-- What a scalar means that starts with a digit or a sign; underscores are passed over. -/
def numberMeaning? (text : List Char) : Option Meaning :=
  let s := text.filter (· ≠ '_')
  (wholeMeaning? (Text.readInt s) (Text.readUnsigned s)).orElse fun _ =>
    (((decimal? s).bind Decimal.toFloat?).map Meaning.float).orElse fun _ => prefixedMeaning? s

/-- What a plain scalar means. Only its first character tells what it can be. -/
def plainMeaning (dates : Bool) (text : List Char) : Meaning :=
  match text with
  | [] => .null
  | c :: _ =>
    if c = '+' ∨ c = '-' ∨ c.isDigit then
      match wordMeaning? (String.ofList text) with
      | some m => m
      | none =>
        match (if dates then Moment.read? text else none) with
        | some m => .timestamp m
        | none => (numberMeaning? text).getD .text
    else if c = '.' then
      match wordMeaning? (String.ofList text) with
      | some m => m
      | none => (fractionMeaning? text).getD .text
    else if "yYnNtTfFoO~".toList.contains c then
      (wordMeaning? (String.ofList text)).getD .text
    else .text

/-! ## Tagged scalars -/

/-- What a scalar with a tag means. -/
def taggedMeaning (tag : Tag) (text : List Char) : Except Problem Meaning :=
  if tag.asksMeaning then
    let m := plainMeaning (tag = .timestamp) text
    if m.tag = tag then .ok m
    else
      match m with
      | .int n => if tag = .float then .ok (.float (Float.ofInt n)) else refuse m
      | _ => refuse m
  else .ok .text
where
  /-- The problem of a scalar that is not what its tag says. -/
  refuse (m : Meaning) : Except Problem Meaning :=
    .error (.cannotDecode m.tag.name (Bytes.ofString (String.ofList text)) tag.name)

/-! ## Binary texts -/

/-- The value of a base64 digit. -/
def sextet? (c : Char) : Option Nat :=
  if 'A' ≤ c ∧ c ≤ 'Z' then some (c.toNat - 'A'.toNat)
  else if 'a' ≤ c ∧ c ≤ 'z' then some (c.toNat - 'a'.toNat + 26)
  else if '0' ≤ c ∧ c ≤ '9' then some (c.toNat - '0'.toNat + 52)
  else if c = '+' then some 62
  else if c = '/' then some 63
  else none

/-- The bytes of base64 digits without line breaks, padded to groups of four. -/
def base64Groups : List Char → Option Bytes
  | [] => some []
  | a :: b :: c :: d :: rest => do
    let x ← sextet? a
    let y ← sextet? b
    if c = '=' then
      if d = '=' ∧ rest.isEmpty then return [(x * 4 + y / 16).toUInt8] else none
    else
      let z ← sextet? c
      if d = '=' then
        if rest.isEmpty then return [(x * 4 + y / 16).toUInt8, (y % 16 * 16 + z / 4).toUInt8]
        else none
      else
        let w ← sextet? d
        let tail ← base64Groups rest
        return (x * 4 + y / 16).toUInt8 :: (y % 16 * 16 + z / 4).toUInt8 ::
          (z % 4 * 64 + w).toUInt8 :: tail
  | _ => none

/-- The bytes of a base64 text, line breaks passed over. -/
def base64? (text : List Char) : Option Bytes :=
  base64Groups (text.filter fun c => c ≠ '\n' ∧ c ≠ '\r')

end TapeDeck.Yaml
