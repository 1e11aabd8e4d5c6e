import TapeDeck.Text.Bytes

/-!
# The text of a fraction

A binary fraction of 64 bits is written with the fewest decimal digits that read back as the same
fraction, and of those the nearest. Where these digits stand far from the point, they are written
with an exponent.
-/

namespace TapeDeck.Text

/-- A positive number: `m` times a power of two. -/
structure Binary where
  m : Nat
  exponent : Int
  deriving DecidableEq, Repr

namespace Binary

/-- The size of a finite fraction. -/
def ofFloat (x : Float) : Binary :=
  let bits := x.toBits.toNat
  let field : Nat := bits / 0x10000000000000 % 0x800
  let part : Nat := bits % 0x10000000000000
  if field = 0 then ⟨part, -1074⟩ else ⟨part + 0x10000000000000, (field : Int) - 1075⟩

/-- The number as a quotient. -/
def numerator (b : Binary) : Nat := b.m * Nat.pow 2 b.exponent.toNat

/-- The divisor of the quotient. -/
def denominator (b : Binary) : Nat := Nat.pow 2 (-b.exponent).toNat

/-- The least power of ten above the number. -/
def point (b : Binary) : Int :=
  if b.denominator ≤ b.numerator then (toString (b.numerator / b.denominator)).length
  else
    let zeros := (toString (b.denominator / b.numerator)).length
    1 - (zeros : Int)

/-- The number in units of a power of ten, and what is left over, as a quotient. -/
def inUnits (b : Binary) (power : Int) : Nat × Nat × Nat :=
  let n := b.numerator * Nat.pow 10 (-power).toNat
  let d := b.denominator * Nat.pow 10 power.toNat
  (n / d, n % d, d)

end Binary

/-- Decimal digits as a number, and the power of ten of the last of them. -/
structure Digits where
  value : Nat
  power : Int
  deriving DecidableEq, Repr

/-- The fraction that digits read as. -/
def Digits.toFloat (d : Digits) : Float :=
  Float.ofScientific d.value (d.power < 0) d.power.natAbs

/-- The digits with the given number of places that read back as `x`, if there are any. -/
def digitsWithin? (x : Float) (places : Nat) : Option Digits :=
  let b := Binary.ofFloat x
  let power := b.point - places
  let (low, rest, unit) := b.inUnits power
  let below : Digits := ⟨low, power⟩
  let above : Digits := ⟨low + 1, power⟩
  let near := if 2 * rest < unit ∨ (2 * rest = unit ∧ low % 2 = 0) then [below, above]
    else [above, below]
  near.find? fun d => d.toFloat == x

/-- The fewest digits that read back as a positive finite fraction. -/
def fewestDigits (x : Float) : Digits :=
  ((List.range 17).findSome? fun n => digitsWithin? x (n + 1)).getD ⟨0, 0⟩

/-- A whole number with at least two digits. -/
def twoDigits (n : Nat) : String :=
  if n < 10 then "0" ++ toString n else toString n

/-- The text of a positive finite fraction. The digits stand around the point if it is after at most
six of them or after at most four zeros. -/
def positiveText (x : Float) : String :=
  let d := fewestDigits x
  let all := (toString d.value).toList
  let digits := (all.reverse.dropWhile (· = '0')).reverse
  let point : Int := all.length + d.power
  let exponent := point - 1
  if exponent < -4 ∨ exponent ≥ 6 then
    let part := digits.drop 1
    String.ofList (digits.take 1 ++ (if part.isEmpty then [] else '.' :: part)) ++ "e" ++
      (if exponent < 0 then "-" else "+") ++ twoDigits exponent.natAbs
  else if point ≤ 0 then
    String.ofList ('0' :: '.' :: List.replicate (-point).toNat '0' ++ digits)
  else
    let whole := digits.take point.toNat
    let part := digits.drop point.toNat
    String.ofList (whole ++ List.replicate (point.toNat - whole.length) '0' ++
      (if part.isEmpty then [] else '.' :: part))

/-- The text of a fraction. -/
def fractionText (x : Float) : String :=
  if x.isNaN then "NaN"
  else
    let negative := x.toBits.toNat ≥ 0x8000000000000000
    let size := if negative then -x else x
    if size.isInf then (if negative then "-Inf" else "+Inf")
    else (if negative then "-" else "") ++ (if size == 0.0 then "0" else positiveText size)

end TapeDeck.Text
