import TapeDeck.Machine.Basic

/-!
# Driving a machine

Two loops step a machine until it halts. `runAll` steps as fast as it can. `runPaced` hands the
machine to a timer first, so it also ends when somebody pauses the machine. Both show each step to
an observer, which may ask for a pause or for cancellation; a cancellation is seen before the next
step.

A program need not end, so both loops take the number of rounds they may use and answer `none`
when that is not enough.
-/

namespace TapeDeck

/-- Why a run ended early. -/
inductive RunError where
  | unbalanced (fault : Unbalanced)
  | cancelled
  deriving DecidableEq, Repr

/-- The wording of an early end. -/
def RunError.message : RunError → String
  | unbalanced fault => fault.message
  | cancelled => "context canceled"

/-- What an observer is shown: the result of a step and the status right after it. -/
structure Observation where
  result : StepReport
  status : Status

/-- What an observer may ask for. -/
structure Signal where
  pause : Bool := false
  cancel : Bool := false
  deriving DecidableEq, Repr

/-- An observer keeps a state of its own and answers each observation with a signal. -/
abbrev Observer (σ : Type) := σ → Observation → σ × Signal

/-- How a run ended: the machine, the observer's state, and the error, if any. -/
structure Outcome (σ : Type) where
  machine : Machine
  seen : σ
  error : Option RunError

/-- Apply what an observer asked for. -/
def Signal.apply (s : Signal) (m : Machine) : Machine :=
  if s.pause then m.pause else m

/-- Step while the status is running. -/
def pacedLoop {σ : Type} (observe : Observer σ) : Nat → Bool → σ → Machine → Option (Outcome σ)
  | 0, _, _, _ => none
  | rounds + 1, cancelled, seen, m =>
    if cancelled then some ⟨m.pause, seen, some .cancelled⟩
    else if m.status ≠ .running then some ⟨m, seen, none⟩
    else
      let s := m.step
      let (seen, signal) := observe seen ⟨s.result, s.machine.status⟩
      let m := signal.apply s.machine
      match s.fault with
      | some fault => some ⟨m, seen, some (.unbalanced fault)⟩
      | none =>
        if s.result.halt.isSome then some ⟨m, seen, none⟩
        else pacedLoop observe rounds signal.cancel seen m

/-- Hand the machine to a timer and step it until it halts, is paused or is cancelled. A
cancelled machine is left paused, so that a later run can go on from there. -/
def runPaced {σ : Type} (observe : Observer σ) (rounds : Nat) (cancelled : Bool) (seen : σ)
    (m : Machine) : Option (Outcome σ) :=
  pacedLoop observe rounds cancelled seen m.run

/-- Step until the machine halts or is cancelled. -/
def runAll {σ : Type} (observe : Observer σ) : Nat → Bool → σ → Machine → Option (Outcome σ)
  | 0, _, _, _ => none
  | rounds + 1, cancelled, seen, m =>
    if m.isHalted then some ⟨m, seen, none⟩
    else if cancelled then some ⟨m, seen, some .cancelled⟩
    else
      let s := m.step
      let (seen, signal) := observe seen ⟨s.result, s.machine.status⟩
      let m := signal.apply s.machine
      match s.fault with
      | some fault => some ⟨m, seen, some (.unbalanced fault)⟩
      | none => runAll observe rounds signal.cancel seen m

/-! ## Observers that record -/

/-- Interrupt a run at given observations, counted from one. -/
structure Interrupts where
  pauseAt : Option Nat := none
  cancelAt : Option Nat := none
  deriving DecidableEq, Repr

/-- Record every observation, and interrupt at the given ones. -/
def recording (interrupts : Interrupts) : Observer (Array Observation) := fun seen o =>
  let seen := seen.push o
  (seen,
    { pause := interrupts.pauseAt = some seen.size,
      cancel := interrupts.cancelAt = some seen.size })

/-- Observe nothing. -/
def blind : Observer Unit := fun _ _ => ((), {})

end TapeDeck
