import TapeDeck.Catalog.Reader
import TapeDeck.CommandLine.Disk
import TapeDeck.CommandLine.Headless
import TapeDeck.CommandLine.Options
import TapeDeck.Screen.Update
import TapeDeck.Sound.Wav

/-!
# Scripts

What the command does is a script: a tree of calls on files, terminal and machine, each followed by
what comes after its answer. The same script is carried out on the real files by the program and on
a directory in memory by `Script.eval`, which is a pure function.
-/

namespace TapeDeck

/-! ## Errors -/

/-- Why the command failed. -/
inductive CommandError where
  | flags (e : FlagError)
  | file (e : FileError)
  | encoding (e : UnknownEncoding)
  | catalog (e : CatalogFile.Error)
  | unknownProgram (e : UnknownProgram)
  | run (e : RunFailure)
  | wav (e : WavError)
  | both (first second : CommandError)
  deriving DecidableEq, Repr

namespace CommandError

/-- The wording of a failure. -/
def message : CommandError → Bytes
  | flags e => e.message
  | file e => e.message
  | encoding e => Bytes.ofString e.message
  | catalog e => e.message
  | unknownProgram e => Bytes.ofString e.message
  | run e => Bytes.ofString e.message
  | wav e => Bytes.ofString e.message
  | both first second => first.message ++ Bytes.ofString "\n" ++ second.message

/-- An error after another one, if there was one. -/
def after : Option CommandError → CommandError → CommandError
  | none, e => e
  | some first, e => both first e

end CommandError

/-! ## Scripts -/

/-- What the command does, call by call. -/
inductive Script where
  | done (error : Option CommandError)
  /-- Write to standard output at once. -/
  | print (bytes : Bytes) (next : Script)
  /-- Write to standard error. -/
  | warn (bytes : Bytes) (next : Script)
  | readFile (path : Bytes) (next : Except FileError Bytes → Script)
  /-- Open a file to add to, and make it if it is not there. -/
  | openLog (path : Bytes) (next : Option FileError → Script)
  | appendLog (path bytes : Bytes) (next : Script)
  /-- Make a file anew and write it with the given calls. -/
  | save (path : Bytes) (calls : List WavCall) (next : Option CommandError → Script)
  /-- Run a program without a screen. -/
  | play (h : Headless) (next : Performance → Script)
  /-- Show a screen until the user leaves it. -/
  | watch (s : Screen) (next : Screen → List Log.Entry → Script)

/-- Files and terminal as a script finds and leaves them. -/
structure Console where
  disk : Disk
  /-- What was written to standard output, piece by piece. -/
  stdout : Array Bytes := #[]
  stderr : Bytes := []
  deriving DecidableEq, Repr

namespace Console

/-- Open a file to add to. -/
def openLog (c : Console) (path : Bytes) : Console × Option FileError :=
  match c.disk.writeProblem? path with
  | some p => (c, some ⟨.opening, path, p⟩)
  | none => ({ c with disk := c.disk.append path [] }, none)

/-- The faults of a file: a full device takes no write. -/
def faults (d : Disk) (path : Bytes) : WavFaults :=
  if d.isFull path then
    let e : FileError := ⟨.writing, path, .full⟩
    { write := fun _ => some (String.ofList (Utf8.decode e.message)) }
  else {}

/-- Make a file anew with the given calls. -/
def save (c : Console) (path : Bytes) (calls : List WavCall) : Console × Option CommandError :=
  match c.disk.writeProblem? path with
  | some p => (c, some (.file ⟨.opening, path, p⟩))
  | none =>
    let (file, error) := perform (faults c.disk path) calls
    ({ c with disk := c.disk.store path file.bytes }, error.map .wav)

end Console

namespace Script

/-- Carry out a script on files in memory. A screen that is shown is left at once. With too few
rounds for a program there is no answer. -/
def eval (rounds : Nat) : Script → Console → Option (Console × Option CommandError)
  | done error, c => some (c, error)
  | print bytes next, c => next.eval rounds { c with stdout := c.stdout.push bytes }
  | warn bytes next, c => next.eval rounds { c with stderr := c.stderr ++ bytes }
  | readFile path next, c => (next (c.disk.read path)).eval rounds c
  | openLog path next, c =>
    let (c, error) := c.openLog path
    (next error).eval rounds c
  | appendLog path bytes next, c =>
    next.eval rounds { c with disk := c.disk.append path bytes }
  | save path calls next, c =>
    let (c, error) := c.save path calls
    (next error).eval rounds c
  | play h next, c =>
    match h.run rounds with
    | some p => (next p).eval rounds c
    | none => none
  | watch s next, c => (next s []).eval rounds c

end Script

end TapeDeck
