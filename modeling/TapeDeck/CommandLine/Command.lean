import TapeDeck.Catalog.Builtin
import TapeDeck.CommandLine.Script

/-!
# The command

What the command does with its arguments: read the options, open the log, choose the encoding and
the program, then list it, run it, or show it on the screen, and in the end write down its tones.
The tones are written also when the run failed, and both errors are reported then.
-/

namespace TapeDeck

/-- Where log entries go. -/
inductive LogTarget where
  | stderr
  | file (path : Bytes)
  | nowhere
  deriving DecidableEq, Repr

/-- How entries are logged. -/
structure Logger where
  target : LogTarget
  /-- Whether the least important entries are kept. -/
  verbose : Bool
  deriving DecidableEq, Repr

/-- Log entries, then go on. -/
def Logger.log (l : Logger) (entries : List Log.Entry) (next : Script) : Script :=
  entries.foldr (fun e next =>
    if l.verbose || e.isPlain then
      match l.target with
      | .stderr => .warn e.line next
      | .file path => .appendLog path e.line next
      | .nowhere => next
    else next) next

/-- A program was chosen. -/
def Log.selected (p : Program) : Log.Entry :=
  ⟨.debug, "program selected", [("id", .number p.id), ("name", .text p.name)]⟩

/-- The tones of a run were written. -/
def Log.wavWritten (path : Bytes) (tones : Nat) : Log.Entry :=
  ⟨.info, "wav written", [("file", .text path), ("tones", .number tones)]⟩

/-- When a run without a screen is cancelled. -/
structure Cancellation where
  /-- Before its first step. -/
  before : Bool := false
  /-- At a piece of its output, counted from one. -/
  atPiece : Option Nat := none
  deriving DecidableEq, Repr

namespace Options

/-- Open the log that the options ask for. -/
def withLogger (o : Options) (next : Logger → Script) : Script :=
  if o.log ≠ [] then
    .openLog o.log fun
      | some e => .done (some (.file e))
      | none => next ⟨.file o.log, o.verbose⟩
  else if o.tui then next ⟨.nowhere, o.verbose⟩
  else next ⟨.stderr, o.verbose⟩

/-- The program of a catalog. -/
def fromCatalog (o : Options) (c : Catalog) (next : Program → Script) : Script :=
  match c.lookup o.id with
  | .ok p => next p
  | .error e => .done (some (.unknownProgram e))

/-- The catalog of a file that was read. A file that opens but cannot be read has no readable
text. -/
def catalogOf : Except FileError Bytes → Except CommandError Catalog
  | .ok content => (CatalogFile.read content).mapError .catalog
  | .error e =>
    if e.call = .opening then .error (.file e)
    else .error (.catalog (.yaml (.plain (.unreadable e.message))))

/-- The id of a program that is not from a catalog. -/
def sourceFileId : Int := -1

/-- Choose the program: a source file, or an entry of a catalog. -/
def withProgram (o : Options) (next : Program → Script) : Script :=
  if o.file ≠ [] then
    .readFile o.file fun
      | .ok source => next { id := sourceFileId, name := o.file, source := source }
      | .error e => .done (some (.file e))
  else if o.catalog ≠ [] then
    .readFile o.catalog fun r =>
      match catalogOf r with
      | .ok c => o.fromCatalog c next
      | .error e => .done (some e)
  else o.fromCatalog builtinCatalog next

/-- Whether tones are wanted. -/
def recording (o : Options) : Bool :=
  o.wav ≠ []

/-- The run without a screen that the options ask for. -/
def headless (o : Options) (c : Cancellation) (encoding : Encoding) (p : Program) : Headless where
  source := p.source
  tapeSize := o.tapeSize
  encoding := encoding
  trace := o.trace
  dump := o.dump
  animate := o.animate
  recording := o.recording
  cancelled := c.before
  cancelAt := c.atPiece

/-- The screen that the options ask for. -/
def settings (o : Options) (encoding : Encoding) (p : Program) : Settings where
  program := p
  tapeSize := o.tapeSize
  speed := o.speed
  encoding := encoding
  recording := o.recording

/-- Write down the tones, if they are wanted. -/
def finish (o : Options) (l : Logger) (failure : Option RunFailure) (track : Track) : Script :=
  let error := failure.map CommandError.run
  if o.recording then
    .save o.wav track.calls fun
      | some e => .done (some (.after error e))
      | none => l.log [Log.wavWritten o.wav track.size] (.done error)
  else .done error

/-- Run a program without a screen. -/
def play (o : Options) (l : Logger) (h : Headless) : Script :=
  .play h fun p =>
    p.printed.foldr (fun s next => .print (Bytes.ofString s) next)
      (l.log p.log (o.finish l p.failure p.track))

/-- Show a program on the screen. -/
def present (o : Options) (l : Logger) (s : Settings) : Script :=
  match Screen.open? s with
  | .error e => o.finish l (some (.tapeSize e)) .empty
  | .ok r =>
    l.log r.log (.watch r.screen fun s entries => l.log entries (o.finish l none s.track))

/-- What the options ask for. -/
def script (o : Options) (c : Cancellation) : Script :=
  o.withLogger fun l =>
    match Encoding.ofName? o.encoding with
    | .error e => .done (some (.encoding e))
    | .ok encoding =>
      o.withProgram fun p =>
        l.log [Log.selected p]
          (if o.list then .print (Bytes.ofString (listingText p.source)) (.done none)
           else if o.tui then o.present l (o.settings encoding p)
           else o.play l (o.headless c encoding p))

end Options

/-- What the command does with its arguments. -/
def command (c : Cancellation) (args : List Bytes) : Script :=
  match Options.parse args with
  | .ok o => o.script c
  | .error e => .warn e.report (.done (some (.flags e)))

/-! ## The end of the process -/

/-- What is printed on standard error for a failure. Asked-for help is none. -/
def CommandError.farewell (e : CommandError) : Bytes :=
  if e = .flags .helpRequested then []
  else
    let text := Bytes.ofString "brainstuck: " ++ e.message
    if text.getLast? = some 0x0A then text else text ++ Bytes.ofString "\n"

/-- The exit code of the process. -/
def exitCode : Option CommandError → UInt8
  | none => 0
  | some e => if e = .flags .helpRequested then 0 else 1

end TapeDeck
