/-!
# Timestamps

A plain scalar that reads as a date, or as a date with a time of day, is a timestamp and not a
text. A time of day may have a fraction of a second, and after a `T` it has a zone.
-/

namespace TapeDeck.Yaml

/-- The zone that a time of day is in. -/
inductive Zone where
  | universal
  /-- A zone written as a distance of nothing from universal time. -/
  | level
  /-- A zone at some distance from universal time, east of it in minutes. -/
  | shifted (minutes : Int)
  deriving DecidableEq, Repr

namespace Zone

/-- How far a zone is east of universal time, in minutes. -/
def minutes : Zone → Int
  | universal | level => 0
  | shifted minutes => minutes

/-- Whether a zone has a place among the known ones. Of the shifted zones those have one that are
whole hours away, from twelve west to fourteen east; the others are known by nothing. -/
def isKnown : Zone → Bool
  | universal | level => true
  | shifted minutes => minutes % 60 = 0 && -12 * 60 ≤ minutes && minutes ≤ 14 * 60

/-- The place of a zone among those of one instant. -/
def rank : Zone → Nat
  | universal => 0
  | level => 1
  | shifted _ => 2

end Zone

/-- A date and a time of day. -/
structure Moment where
  year : Nat
  month : Nat
  day : Nat
  hour : Nat := 0
  minute : Nat := 0
  second : Nat := 0
  nanosecond : Nat := 0
  zone : Zone := .universal
  deriving DecidableEq, Repr

namespace Moment

/-- One or two digits. -/
def number (s : List Char) : Option (Nat × List Char) :=
  match s with
  | a :: b :: rest =>
    if a.isDigit then
      if b.isDigit then some ((a.toNat - 48) * 10 + (b.toNat - 48), rest)
      else some (a.toNat - 48, b :: rest)
    else none
  | [a] => if a.isDigit then some (a.toNat - 48, []) else none
  | [] => none

/-- One or two digits with a value in a range. -/
def numberIn (lo hi : Nat) (s : List Char) : Option (Nat × List Char) :=
  (number s).filter fun (n, _) => decide (lo ≤ n) && decide (n ≤ hi)

/-- A given character. -/
def literal (c : Char) : List Char → Option (List Char)
  | d :: rest => if c = d then some rest else none
  | [] => none

/-- The number of days in a month. -/
def daysIn (year month : Nat) : Nat :=
  if month = 2 then
    (if year % 4 = 0 ∧ (year % 100 ≠ 0 ∨ year % 400 = 0) then 29 else 28)
  else if month = 4 ∨ month = 6 ∨ month = 9 ∨ month = 11 then 30
  else 31

/-- The number of leap years before a year. -/
def leapYears (year : Nat) : Nat :=
  (year + 3) / 4 - (year + 99) / 100 + (year + 399) / 400

/-- The days from the first day of year zero. -/
def days (m : Moment) : Nat :=
  let inYear := (List.range (m.month - 1)).foldl (fun n k => n + daysIn m.year (k + 1)) 0
  m.year * 365 + leapYears m.year + inYear + (m.day - 1)

/-- The seconds of universal time from the first day of year zero, without the fraction. -/
def seconds (m : Moment) : Int :=
  (m.days * 86400 + m.hour * 3600 + m.minute * 60 + m.second : Nat) - m.zone.minutes * 60

/-- Moments in order of their fractions of a second, then of their seconds, then of their zones. -/
def order (a b : Moment) : Ordering :=
  (compare a.nanosecond b.nanosecond).then
    ((compare a.seconds b.seconds).then (compare a.zone.rank b.zone.rank))

/-- Whether two moments are one: the same instant in one known zone. -/
def same (a b : Moment) : Bool :=
  a = b && a.zone.isKnown

/-- Digits as a number. -/
def ofDigits (digits : List Char) : Nat :=
  digits.foldl (fun n d => n * 10 + (d.toNat - 48)) 0

/-- A year of four digits, a month and a day. -/
def readDate (s : List Char) : Option (Moment × List Char) := do
  let digits := s.takeWhile Char.isDigit
  if digits.length ≠ 4 then none
  let year := ofDigits digits
  let rest ← literal '-' (s.drop 4)
  let (month, rest) ← numberIn 1 12 rest
  let rest ← literal '-' rest
  let (day, rest) ← numberIn 1 (daysIn year month) rest
  return ({ year, month, day }, rest)

/-- A fraction of a second in nanoseconds, if there is one; digits after the ninth are dropped. -/
def readFraction (s : List Char) : Nat × List Char :=
  match s with
  | p :: d :: rest =>
    if (p = '.' ∨ p = ',') ∧ d.isDigit then
      let digits := (d :: rest).takeWhile Char.isDigit
      (ofDigits ((digits ++ List.replicate 9 '0').take 9), rest.dropWhile Char.isDigit)
    else (0, s)
  | _ => (0, s)

/-- Hours, minutes, seconds. -/
def readTime (m : Moment) (s : List Char) : Option (Moment × List Char) := do
  let (hour, rest) ← numberIn 0 23 s
  let rest ← literal ':' rest
  let (minute, rest) ← numberIn 0 59 rest
  let rest ← literal ':' rest
  let (second, rest) ← numberIn 0 59 rest
  let (nanosecond, rest) := readFraction rest
  return ({ m with hour, minute, second, nanosecond }, rest)

/-- A zone: the letter Z, or a sign, two digits of hours, a colon and two digits of minutes. -/
def readZone (s : List Char) : Option (Zone × List Char) :=
  match s with
  | 'Z' :: rest => some (.universal, rest)
  | sign :: a :: b :: ':' :: c :: d :: rest =>
    let hours := ofDigits [a, b]
    let minutes := ofDigits [c, d]
    if (sign = '+' ∨ sign = '-') ∧ [a, b, c, d].all Char.isDigit ∧ hours ≤ 24 ∧ minutes ≤ 60 then
      let distance : Int := hours * 60 + minutes
      some (if distance = 0 then .level else .shifted (if sign = '-' then -distance else distance),
        rest)
    else none
  | _ => none

/-- What may follow a date: nothing; a T, a time and a zone; or spaces and a time. -/
def readRest (m : Moment) (s : List Char) : Option Moment :=
  match s with
  | [] => some m
  | 'T' :: rest | 't' :: rest => do
    let (m, rest) ← m.readTime rest
    let (zone, rest) ← readZone rest
    if rest.isEmpty then some { m with zone } else none
  | ' ' :: rest => do
    let (m, rest) ← m.readTime (rest.dropWhile (· = ' '))
    if rest.isEmpty then some m else none
  | _ => none

/-- The moment that a text names. -/
def read? (s : List Char) : Option Moment := do
  let (m, rest) ← readDate s
  m.readRest rest

end Moment

end TapeDeck.Yaml
