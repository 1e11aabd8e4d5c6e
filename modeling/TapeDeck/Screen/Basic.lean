import TapeDeck.Catalog.Basic
import TapeDeck.Log
import TapeDeck.Machine.Basic
import TapeDeck.Program.Listing
import TapeDeck.Sound.Track
import TapeDeck.Text.Encoding

/-!
# The screen

The state of the screen on which a program is watched: the machine, what it has executed, and what
went wrong. The screen reacts to messages (`Screen.update`); all that has to happen outside of it
it asks for with a request, which in time comes back as a message. A tick carries the number of the
run it belongs to, so that ticks of an earlier run can be told apart.
-/

namespace TapeDeck

/-- What a screen is set up with. -/
structure Settings where
  program : Program
  tapeSize : Int
  /-- The delay between ticks. -/
  speed : Duration := .tenthOfSecond
  encoding : Encoding := .utf8
  /-- Whether executed commands are recorded on a track. -/
  recording : Bool := false
  deriving DecidableEq, Repr

/-- One executed step, as the history keeps it. -/
structure Executed where
  index : Nat
  command : UInt8
  pointer : Nat
  output : Option UInt8
  deriving DecidableEq, Repr

/-- What the history keeps of a step, if it executed anything. -/
def StepReport.executed? (r : StepReport) : Option Executed :=
  r.command.map fun b => ⟨r.index, b, r.tape.pointer, r.output⟩

/-- What the screen reports as an error. -/
inductive ScreenError where
  | tapeSize (e : InvalidTapeSize)
  | unbalanced (e : Unbalanced)
  deriving DecidableEq, Repr

/-- The wording of an error on the screen. -/
def ScreenError.message : ScreenError → String
  | tapeSize e => e.loadMessage
  | unbalanced e => e.message

/-- A program being watched. -/
@[ext]
structure Screen where
  settings : Settings
  machine : Machine
  partners : PartnerTable
  /-- The steps executed since the program was loaded. -/
  history : Array Executed
  /-- Whether the program has come to its end. -/
  ended : Bool
  error : Option ScreenError
  /-- The number of the current run. -/
  runId : Int
  track : Track

/-- A key, as typed or pasted. -/
structure Key where
  text : String
  /-- Whether the key is a function key, which has a name instead of a character. -/
  named : Bool := false
  alt : Bool := false
  pasted : Bool := false
  deriving DecidableEq, Repr

/-- The name of a key. -/
def Key.name (k : Key) : String :=
  (if k.alt then "alt+" else "") ++
    (if k.pasted && !k.named then "[" ++ k.text ++ "]" else k.text)

/-- What a key asks for. -/
inductive Action where
  | quit
  | step
  | run
  | pause
  | reset
  deriving DecidableEq, Repr

/-- What a key asks for, by its name. -/
def Action.ofKey? (k : Key) : Option Action :=
  match k.name with
  | "ctrl+c" | "q" => some quit
  | "s" => some step
  | "r" | "c" => some run
  | "p" => some pause
  | "x" => some reset
  | _ => none

/-- What happens to a screen. -/
inductive Message where
  | key (k : Key)
  | tick (runId : Int)
  | load (p : Program)
  | other
  deriving DecidableEq, Repr

/-- What a screen asks for. -/
inductive Request where
  | tick (runId : Int)
  | load (p : Program)
  | quit
  deriving DecidableEq, Repr

/-- The message that answers a request. -/
def Request.message : Request → Message
  | tick runId => .tick runId
  | load p => .load p
  | quit => .other

/-- A screen after a message, what it asks for, and what it logs. -/
structure Reaction where
  screen : Screen
  request : Option Request := none
  log : List Log.Entry := []

end TapeDeck
