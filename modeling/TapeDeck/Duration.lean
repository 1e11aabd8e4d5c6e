import TapeDeck.Text.Numeral
import TapeDeck.Text.Utf8

/-!
# Durations

A length of time in nanoseconds, within 64 bits. Written form: hours, minutes and seconds, or one
smaller unit for less than a second, each without trailing zeros (`1h2m3.5s`, `1.5ms`). Read form:
a sign and numbers with units, in any order and number (`1m0.5h`); zero alone needs no unit.
-/

namespace TapeDeck

/-- A length of time. -/
structure Duration where
  nanoseconds : Int
  deriving DecidableEq, Repr

namespace Duration

/-- The delay between steps when no other is asked for. -/
def tenthOfSecond : Duration := ⟨100000000⟩

/-! ## Writing -/

/-- The last `places` decimal digits of a number. -/
def lastDigits : Nat → Nat → List Char
  | 0, _ => []
  | places + 1, n => lastDigits places (n / 10) ++ [Text.hexDigit (n % 10)]

/-- A number of units of `10 ^ places`, with the fraction without trailing zeros. -/
def decimal (places n : Nat) : String :=
  let fraction := ((lastDigits places n).reverse.dropWhile (· = '0')).reverse
  toString (n / Nat.pow 10 places) ++
    (if fraction.isEmpty then "" else "." ++ String.ofList fraction)

/-- A number of nanoseconds with its units. -/
def magnitude (n : Nat) : String :=
  if n = 0 then "0s"
  else if n < 1000 then decimal 0 n ++ "ns"
  else if n < 1000000 then decimal 3 n ++ "µs"
  else if n < 1000000000 then decimal 6 n ++ "ms"
  else
    let minutes := n / 60000000000
    let seconds := decimal 9 (n % 60000000000) ++ "s"
    if minutes = 0 then seconds
    else if minutes < 60 then toString minutes ++ "m" ++ seconds
    else toString (minutes / 60) ++ "h" ++ toString (minutes % 60) ++ "m" ++ seconds

/-- A duration as text. -/
def text (d : Duration) : String :=
  (if d.nanoseconds < 0 then "-" else "") ++ magnitude d.nanoseconds.natAbs

/-! ## Reading -/

/-- The nanoseconds of a unit. The micro sign and the Greek letter mean the same. -/
def unit? (name : Bytes) : Option Nat :=
  if name = Bytes.ofString "ns" then some 1
  else if name = Bytes.ofString "us" then some 1000
  else if name = Bytes.ofString "µs" then some 1000
  else if name = Bytes.ofString "μs" then some 1000
  else if name = Bytes.ofString "ms" then some 1000000
  else if name = Bytes.ofString "s" then some 1000000000
  else if name = Bytes.ofString "m" then some 60000000000
  else if name = Bytes.ofString "h" then some 3600000000000
  else none

/-- The digit of a byte. -/
def digit? (b : UInt8) : Option Nat :=
  if 0x30 ≤ b ∧ b ≤ 0x39 then some (b.toNat - 0x30) else none

/-- Whether a byte can be part of a number. -/
def isNumeral (b : UInt8) : Bool :=
  b = 0x2E || (digit? b).isSome

/-- The greatest magnitude, which only a negative duration has. -/
def limit : Nat := 0x8000000000000000

/-- The value of whole digits after those of `n`; none when they leave 64 bits. -/
def whole? : Bytes → Nat → Option Nat
  | [], n => some n
  | b :: rest, n =>
    let n := n * 10 + (digit? b).getD 0
    if n > limit then none else whole? rest n

/-- The value of the digits after a point and the power of ten they are divided by. Digits that
leave 64 bits, and all after them, are dropped. -/
def fraction : Bytes → Nat → Float → Nat × Float
  | [], n, scale => (n, scale)
  | b :: rest, n, scale =>
    let next := n * 10 + (digit? b).getD 0
    if n > (limit - 1) / 10 ∨ next > limit then (n, scale) else fraction rest next (scale * 10)

/-- One number with its unit, in nanoseconds, and the text after it. -/
def term? (s : Bytes) : Option (Nat × Bytes) := do
  let digits := s.takeWhile fun b => (digit? b).isSome
  let afterWhole := s.drop digits.length
  let whole ← whole? digits 0
  let (places, afterPlaces) :=
    match afterWhole with
    | 0x2E :: rest =>
      let places := rest.takeWhile fun b => (digit? b).isSome
      (places, rest.drop places.length)
    | rest => ([], rest)
  if digits.isEmpty && places.isEmpty then none
  else
    let name := afterPlaces.takeWhile fun b => !isNumeral b
    let unit ← unit? name
    if whole > limit / unit then none
    else
      let (n, scale) := fraction places 0 1
      let part := if n = 0 then 0
        else (n.toUInt64.toFloat * (unit.toUInt64.toFloat / scale)).toUInt64.toNat
      if whole * unit + part > limit then none
      else some (whole * unit + part, afterPlaces.drop name.length)

/-- The sum of the terms of a text that follow a sum of `n`, kept to 64 bits. Every term takes at
least one byte, so as many rounds as there are bytes are enough. -/
def terms? : Nat → Bytes → Nat → Option Nat
  | _, [], n => some n
  | 0, _, _ => none
  | rounds + 1, s, n => do
    let (v, rest) ← term? s
    let n := (n + v) % 0x10000000000000000
    if n > limit then none else terms? rounds rest n

/-- A duration from text. -/
def parse? (s : Bytes) : Option Duration := do
  let (negative, s) :=
    match s with
    | 0x2D :: rest => (true, rest)
    | 0x2B :: rest => (false, rest)
    | _ => (false, s)
  if s = [0x30] then some ⟨0⟩
  else if s.isEmpty then none
  else
    let n ← terms? s.length s 0
    if negative then some ⟨-(n : Int)⟩
    else if n ≥ limit then none
    else some ⟨n⟩

end Duration

end TapeDeck
