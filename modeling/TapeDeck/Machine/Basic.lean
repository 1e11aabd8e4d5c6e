import TapeDeck.Program.Bracket
import TapeDeck.Tape

/-!
# The stepping machine

A machine runs one program byte at a time. A bracket that jumps lands **on** its partner, which is
then a step of its own; a bracket that has to jump and has no partner halts the machine where it
stands. `Machine.step` always returns a result, also when nothing is left to execute.

Whether the machine is being stepped by hand (`paused`), driven by a timer (`running`) or not yet
started (`ready`) is a label that the steps themselves do not depend on. A halted machine carries
the reason, so being halted and having a reason are one thing.
-/

namespace TapeDeck

/-! ## Status -/

/-- Why a machine halted. -/
inductive HaltReason where
  | finished
  | unbalanced
  deriving DecidableEq, Repr

/-- How far a machine is, and who drives it. -/
inductive Status where
  | ready
  | running
  | paused
  | halted (reason : HaltReason)
  deriving DecidableEq, Repr

/-- The name of halt state number `n`; a number that is none of them is shown as itself. -/
def haltNameOf (n : Int) : String :=
  if n = 0 then "not halted"
  else if n = 1 then "finished"
  else if n = 2 then "unbalanced"
  else "halt(" ++ toString n ++ ")"

/-- The number of a halt state: zero before the halt. -/
def haltNumber : Option HaltReason → Int
  | none => 0
  | some .finished => 1
  | some .unbalanced => 2

/-- The name of a halt state. -/
def haltName (h : Option HaltReason) : String :=
  haltNameOf (haltNumber h)

namespace Status

/-- The name of status number `n`; a number that is none of them is shown as itself. -/
def nameOf (n : Int) : String :=
  if n = 0 then "ready"
  else if n = 1 then "running"
  else if n = 2 then "paused"
  else if n = 3 then "halted"
  else "status(" ++ toString n ++ ")"

/-- The number of a status. -/
def number : Status → Int
  | ready => 0
  | running => 1
  | paused => 2
  | halted _ => 3

/-- The name of a status. -/
def name (s : Status) : String :=
  nameOf s.number

/-- The reason of a halt. -/
def halt? : Status → Option HaltReason
  | halted reason => some reason
  | _ => none

/-- Whether the machine has stopped for good. -/
def isHalted (s : Status) : Bool :=
  s.halt?.isSome

/-- Hand over to a timer. -/
def run : Status → Status
  | ready => running
  | paused => running
  | s => s

/-- Take back from a timer. -/
def pause : Status → Status
  | running => paused
  | s => s

/-- Hand a paused machine back to its timer. -/
def resume : Status → Status
  | paused => running
  | s => s

/-- A first step by hand leaves `ready`. -/
def begin : Status → Status
  | ready => paused
  | s => s

end Status

/-! ## Steps -/

/-- A bracket that had to jump and has no partner. -/
inductive Unbalanced where
  | noClose (index : Nat)
  | noOpen (index : Nat)
  deriving DecidableEq, Repr

/-- The position of the bracket. -/
def Unbalanced.index : Unbalanced → Nat
  | noClose i => i
  | noOpen i => i

/-- The wording of an unbalanced program. -/
def Unbalanced.message : Unbalanced → String
  | noClose i => "unbalanced program: no ] for [ at " ++ toString i
  | noOpen i => "unbalanced program: no [ for ] at " ++ toString i

/-- What a driver learns from one step. -/
@[ext]
structure StepReport where
  /-- The byte that was executed, if any was. -/
  command : Option UInt8
  /-- The position before the step. -/
  index : Nat
  /-- The tape after the step. -/
  tape : Tape
  /-- The byte that was output, if any was. -/
  output : Option UInt8
  /-- The halt state after the step. -/
  halt : Option HaltReason

/-- Whether the step executed a byte of the program. -/
def StepReport.executed (r : StepReport) : Bool :=
  r.command.isSome

/-- A program on its tape. -/
@[ext]
structure Machine where
  code : Code
  tape : Tape
  index : Nat
  output : Array UInt8
  status : Status
  steps : Nat

/-- A step: the machine after it, what it reports, and the fault it found, if any. -/
@[ext]
structure Stepped where
  machine : Machine
  result : StepReport
  fault : Option Unbalanced

/-- The wording of a tape size that no machine can be loaded with. -/
def InvalidTapeSize.loadMessage (e : InvalidTapeSize) : String :=
  "new interpreter: " ++ e.message

namespace Machine

/-- A machine at the start of `source` on the given tape. -/
def start (source : Bytes) (tape : Tape) : Machine where
  code := source.toArray
  tape := tape
  index := 0
  output := #[]
  status := .ready
  steps := 0

/-- A machine at the start of `source` on a zero tape of the requested size. -/
def load? (source : Bytes) (size : Int) : Except InvalidTapeSize Machine :=
  (Tape.blank? size).map (start source)

/-- The reason of the halt. -/
def halt? (m : Machine) : Option HaltReason := m.status.halt?

/-- Whether the machine has stopped for good. -/
def isHalted (m : Machine) : Bool := m.status.isHalted

/-- Hand the machine to a timer. -/
def run (m : Machine) : Machine := { m with status := m.status.run }

/-- Take the machine back from its timer. -/
def pause (m : Machine) : Machine := { m with status := m.status.pause }

/-- Hand a paused machine back to its timer. -/
def resume (m : Machine) : Machine := { m with status := m.status.resume }

/-- Halt where the machine stands. -/
def stop (m : Machine) (reason : HaltReason) : Machine := { m with status := .halted reason }

/-- A step that executes nothing. -/
def rest (m : Machine) : Stepped where
  machine := m
  result := { command := none, index := m.index, tape := m.tape, output := none, halt := m.halt? }
  fault := none

/-- The step from position `i` that executed `b` and left the machine `m`. -/
def executed (m : Machine) (i : Nat) (b : UInt8) (out : Option UInt8) (fault : Option Unbalanced) :
    Stepped where
  machine := m
  result := { command := some b, index := i, tape := m.tape, output := out, halt := m.halt? }
  fault := fault

/-- Go to position `j`, counting the step. -/
def goto (m : Machine) (j : Nat) : Machine :=
  { m with index := j, steps := m.steps + 1 }

/-- Execute `b` by changing the tape and moving on. -/
def move (m : Machine) (b : UInt8) (change : Tape → Tape) : Stepped :=
  let i := m.index
  executed ({ m with tape := change m.tape }.goto (i + 1)) i b none none

/-- Execute `b` by writing out the current cell. -/
def emit (m : Machine) (b : UInt8) : Stepped :=
  executed ({ m with output := m.output.push m.tape.read }.goto (m.index + 1)) m.index b
    (some m.tape.read) none

/-- Execute the bracket `b` by landing on its partner, or halt on it when it has none. -/
def jump (m : Machine) (b : UInt8) (partner : Option Nat) (fault : Unbalanced) : Stepped :=
  match partner with
  | some j => executed (m.goto j) m.index b none none
  | none => executed (m.stop .unbalanced) m.index b none (some fault)

/-- Execute the byte `b` at the current position. -/
def execute (m : Machine) (b : UInt8) : Stepped :=
  match Command.ofByte? b with
  | some .right => m.move b Tape.moveRight
  | some .left => m.move b Tape.moveLeft
  | some .increment => m.move b Tape.increment
  | some .decrement => m.move b Tape.decrement
  | some .output => m.emit b
  | some .loopOpen =>
    if m.tape.read = 0 then m.jump b (closeOf? m.code m.index) (.noClose m.index)
    else m.move b id
  | some .loopClose =>
    if m.tape.read = 0 then m.move b id
    else m.jump b (openOf? m.code m.index) (.noOpen m.index)
  | none => m.move b id

/-- One step. Once halted, every further step reports the same and changes nothing; the step that
finds no byte left halts the machine. -/
def step (m : Machine) : Stepped :=
  if m.isHalted then m.rest
  else
    match m.code[m.index]? with
    | none => (m.stop .finished).rest
    | some b => { m with status := m.status.begin }.execute b

/-- The machine after `n` steps. -/
def stepN : Nat → Machine → Machine
  | 0, m => m
  | n + 1, m => stepN n m.step.machine

end Machine

end TapeDeck
