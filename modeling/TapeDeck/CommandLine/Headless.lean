import TapeDeck.Log
import TapeDeck.Machine.Drive
import TapeDeck.Machine.Report
import TapeDeck.Sound.Track
import TapeDeck.Text.Encoding

/-!
# Runs without a screen

A program is run to its end, with or without a timer. On the way each executed step may be traced
and recorded on a track; at the end the output is printed, and the tape if asked for. What is
printed is a list of pieces, each written at once.
-/

namespace TapeDeck

/-- A run without a screen. -/
structure Headless where
  source : Bytes
  tapeSize : Int
  encoding : Encoding := .utf8
  /-- Whether every executed step is printed. -/
  trace : Bool := false
  /-- Whether the tape is printed at the end. -/
  dump : Bool := false
  /-- Whether a timer drives the run. -/
  animate : Bool := false
  /-- Whether executed commands are recorded on a track. -/
  recording : Bool := false
  /-- Whether the run is cancelled before its first step. -/
  cancelled : Bool := false
  /-- The piece of output at which the run is cancelled, counted from one. -/
  cancelAt : Option Nat := none
  deriving DecidableEq, Repr

/-- Why a run failed. -/
inductive RunFailure where
  | tapeSize (e : InvalidTapeSize)
  | run (e : RunError)
  deriving DecidableEq, Repr

/-- The wording of a failed run. -/
def RunFailure.message : RunFailure → String
  | tapeSize e => e.loadMessage
  | run e => e.message

/-- What a run leaves behind. -/
structure Performance where
  /-- What was printed, piece by piece. -/
  printed : List String := []
  track : Track := .empty
  log : List Log.Entry := []
  failure : Option RunFailure := none

/-- What is kept while a program runs. -/
structure Watch where
  /-- The trace so far. -/
  lines : Array String := #[]
  track : Track := .empty

/-- The line of an executed step. -/
def traceLine (r : StepReport) (b : UInt8) : String :=
  Text.column 5 r.index ++ " " ++ (byteChar b).toString ++ " ptr=" ++ toString r.tape.pointer ++
    " cells=" ++ r.tape.cellsText ++ "\n"

namespace Headless

/-- Trace and record an executed step. A trace line that is written may bring a cancellation. -/
def observe (h : Headless) : Observer Watch := fun w o =>
  match o.result.command with
  | none => (w, {})
  | some b =>
    let w := if h.recording then { w with track := w.track.cue b } else w
    if h.trace then
      let w := { w with lines := w.lines.push (traceLine o.result b) }
      (w, { cancel := h.cancelAt = some w.lines.size })
    else (w, {})

/-- Run a machine to its end. -/
def drive (h : Headless) (rounds : Nat) (m : Machine) : Option (Outcome Watch) :=
  if h.animate then runPaced h.observe rounds h.cancelled {} m
  else runAll h.observe rounds h.cancelled {} m

/-- What is printed when a machine has ended: its output, and its tape if asked for. -/
def closing (h : Headless) (m : Machine) : List String :=
  h.encoding.decode m.output.toList :: (if h.dump then "\n" :: m.tape.dumpLines else [])

/-- What is logged when a machine has ended. -/
def verdict (m : Machine) (error : Option RunError) : Log.Entry :=
  match error with
  | some e =>
    ⟨.error, "program stopped execution",
      [("error", .text (Bytes.ofString e.message)), ("index", .number m.index)]⟩
  | none =>
    ⟨.info, "program finished",
      [("steps", .number m.steps), ("status", .text (Bytes.ofString m.status.name))]⟩

/-- Run a program to its end. With too few rounds there is no answer. -/
def run (h : Headless) (rounds : Nat) : Option Performance :=
  match Machine.load? h.source h.tapeSize with
  | .error e => some { failure := some (.tapeSize e) }
  | .ok m =>
    (h.drive rounds m).map fun o =>
      { printed := o.seen.lines.toList ++ h.closing o.machine
        track := o.seen.track
        log := [verdict o.machine o.error]
        failure := o.error.map .run }

end Headless

end TapeDeck
