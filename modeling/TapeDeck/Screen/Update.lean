import TapeDeck.Screen.Basic

/-!
# How a screen reacts

`Screen.update` is the one way in which a screen changes. Keys step the machine, hand it to the
timer or take it back; a tick steps it when it belongs to the current run; a load starts over with
another program. A load that fails leaves the run as it is and shows the error, but the program it
asked for stays the one that a reset loads.
-/

namespace TapeDeck

namespace Log

/-- A program was loaded. -/
def loaded (p : Program) : Entry :=
  ⟨.info, "program loaded",
    [("id", .number p.id), ("name", .text p.name), ("length", .number p.source.length)]⟩

/-- A machine was handed to the timer. -/
def autoRun (index : Nat) (speed : Duration) : Entry :=
  ⟨.debug, "auto run", [("index", .number index), ("speed", .duration speed)]⟩

/-- A program stopped on an error. -/
def stopped (e : Unbalanced) : Entry :=
  ⟨.error, "program stopped", [("error", .text (Bytes.ofString e.message))]⟩

/-- A program halted. -/
def halted (reason : HaltReason) (m : Machine) : Entry :=
  ⟨.info, "program halted",
    [("reason", .text (Bytes.ofString (haltName (some reason)))), ("steps", .number m.steps),
      ("output", .number m.output.size)]⟩

end Log

namespace Screen

/-- A screen at the start of its program, in run `runId`. -/
def start (settings : Settings) (m : Machine) (runId : Int) : Screen where
  settings := settings
  machine := m
  partners := TapeDeck.partners settings.program.source
  history := #[]
  ended := false
  error := none
  runId := runId
  track := .empty

/-- A new screen, with the entry it logs. A speed that is not positive gives way to the default. -/
def open? (settings : Settings) : Except InvalidTapeSize Reaction :=
  let settings := if settings.speed.nanoseconds ≤ 0 then { settings with speed := .tenthOfSecond }
    else settings
  match Machine.load? settings.program.source settings.tapeSize with
  | .error e => .error e
  | .ok m =>
    .ok { screen := start settings m 1, log := [Log.loaded settings.program] }

/-- Ask for another tape size from the next load on. -/
def setTapeSize (s : Screen) (size : Int) : Screen :=
  { s with settings := { s.settings with tapeSize := size } }

/-- Load a program. Nothing of the run before survives but the count of runs. -/
def load (s : Screen) (p : Program) : Reaction :=
  let settings := { s.settings with program := p }
  match Machine.load? p.source settings.tapeSize with
  | .error e => { screen := { s with settings := settings, error := some (.tapeSize e) } }
  | .ok m =>
    { screen := start settings m (s.runId + 1), log := [Log.loaded p] }

/-- Record an executed step in the history and on the track. -/
def record (s : Screen) (r : StepReport) : Screen :=
  match r.executed? with
  | none => s
  | some e =>
    { s with
      history := s.history.push e
      track := if s.settings.recording then s.track.cue e.command else s.track }

/-- Step the machine. -/
def step (s : Screen) : Reaction :=
  let stepped := s.machine.step
  let s := { s with machine := stepped.machine }.record stepped.result
  let s := match stepped.fault with
    | some e => { s with error := some (.unbalanced e) }
    | none => s
  let faultLog := (stepped.fault.map Log.stopped).toList
  match stepped.result.halt with
  | some reason =>
    { screen := { s with ended := true }, log := faultLog ++ [Log.halted reason s.machine] }
  | none => { screen := s, log := faultLog }

/-- Whether a key may step the machine or hand it to the timer. -/
def isIdle (s : Screen) : Bool :=
  !s.ended && s.machine.status != .running

/-- Hand the machine to the timer: a new run, with its first tick. -/
def startTimer (s : Screen) : Reaction :=
  let s := { s with machine := s.machine.run, runId := s.runId + 1 }
  { screen := s, request := some (.tick s.runId),
    log := [Log.autoRun s.machine.index s.settings.speed] }

/-- React to a key. -/
def act (s : Screen) : Action → Reaction
  | .quit => { screen := s, request := some .quit }
  | .step => if s.isIdle then s.step else { screen := s }
  | .run => if s.isIdle then s.startTimer else { screen := s }
  | .pause => { screen := { s with machine := s.machine.pause } }
  | .reset => { screen := s, request := some (.load s.settings.program) }

/-- React to a tick of run `runId`: step, and ask for the next tick while the machine runs. -/
def tick (s : Screen) (runId : Int) : Reaction :=
  if runId = s.runId ∧ s.machine.status = .running then
    let r := s.step
    if r.screen.machine.status = .running then
      { r with request := some (.tick r.screen.runId) }
    else r
  else { screen := s }

/-- React to a message. -/
def update (s : Screen) : Message → Reaction
  | .key k =>
    match Action.ofKey? k with
    | some a => s.act a
    | none => { screen := s }
  | .tick runId => s.tick runId
  | .load p => s.load p
  | .other => { screen := s }

end Screen

end TapeDeck
