import TapeDeck.Text.Bytes

/-!
# Commands

Seven bytes are commands; a program may hold any others, which do nothing when they are stepped
over. `Command.ofByte?` reads a byte, and is the partial inverse of `Command.toByte`
(`ofByte?_eq_some_iff`).
-/

namespace TapeDeck

/-- A program as the machine holds it: bytes that can be reached by position. -/
abbrev Code := Array UInt8

/-- What a command byte asks for. -/
inductive Command where
  | right
  | left
  | increment
  | decrement
  | output
  | loopOpen
  | loopClose
  deriving DecidableEq, Repr

namespace Command

/-- The byte that stands for a command. -/
def toByte : Command → UInt8
  | right => 0x3E
  | left => 0x3C
  | increment => 0x2B
  | decrement => 0x2D
  | output => 0x2E
  | loopOpen => 0x5B
  | loopClose => 0x5D

/-- The command that a byte stands for, if any. -/
def ofByte? (b : UInt8) : Option Command :=
  if b = 0x3E then some right
  else if b = 0x3C then some left
  else if b = 0x2B then some increment
  else if b = 0x2D then some decrement
  else if b = 0x2E then some output
  else if b = 0x5B then some loopOpen
  else if b = 0x5D then some loopClose
  else none

theorem ofByte?_toByte (c : Command) : ofByte? c.toByte = some c := by
  cases c <;> rfl

theorem ofByte?_eq_some_iff {b : UInt8} {c : Command} : ofByte? b = some c ↔ b = c.toByte := by
  constructor
  · intro h
    unfold ofByte? at h
    repeat' split at h
    all_goals first
      | (simp only [Option.some.injEq] at h; subst h; assumption)
      | exact absurd h (by simp)
  · rintro rfl
    exact ofByte?_toByte c

end Command

/-- Whether a byte is a command. -/
def isCommand (b : UInt8) : Bool :=
  (Command.ofByte? b).isSome

/-- The byte that opens a loop. -/
def openByte : UInt8 := Command.loopOpen.toByte

/-- The byte that closes a loop. -/
def closeByte : UInt8 := Command.loopClose.toByte

end TapeDeck
