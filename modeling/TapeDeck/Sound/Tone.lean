import TapeDeck.Program.Command

/-!
# Tones

Every command has a note, and a step that executes it sounds that note. The notes are the C of
seven octaves, in equal temperament with the A of octave 4 at 440 Hz.
-/

namespace TapeDeck

/-- The octave of a command's note. -/
def Command.octave : Command → Nat
  | .right => 2
  | .left => 3
  | .increment => 4
  | .decrement => 5
  | .output => 6
  | .loopOpen => 7
  | .loopClose => 8

/-- The name of a command's note. -/
def Command.note (c : Command) : String :=
  "C" ++ toString c.octave

/-- The note of a byte; only commands have one. -/
def note? (b : UInt8) : Option String :=
  (Command.ofByte? b).map Command.note

/-- How many semitones the C of an octave is above the A of octave 4, counted in 64 bits. -/
def semitones (octave : Int64) : Int64 :=
  (octave - 4) * 12 - 9

/-- The frequency of the C of an octave, in Hz. -/
def frequency (octave : Int64) : Float :=
  440 * Float.pow 2 ((semitones octave).toFloat / 12)

/-- One tone of a track. -/
structure Tone where
  /-- The byte that sounded. -/
  command : UInt8
  /-- The name of its note. -/
  note : String
  /-- The frequency in Hz. -/
  freq : Float
  /-- The loudness, up to 1. -/
  gain : Float

/-- What stands for a tone where nothing sounds. -/
def Tone.silent : Tone where
  command := 0
  note := ""
  freq := 0
  gain := 0

/-- The tone of a command at a given loudness. -/
def Command.tone (c : Command) (gain : Float) : Tone where
  command := c.toByte
  note := c.note
  freq := frequency (Int64.ofNat c.octave)
  gain := gain

end TapeDeck
