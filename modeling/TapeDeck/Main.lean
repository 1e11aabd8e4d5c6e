import TapeDeck.CommandLine.Command
import TapeDeck.Screen.View

/-!
# The program

Carries out the script of the command on the real files and the terminal. Everything that is
decided is decided in the script; what is here reads, writes and waits.
-/

namespace TapeDeck.Terminal

/-- Bytes as the library for files takes them. -/
def block (bs : Bytes) : ByteArray :=
  ⟨bs.toArray⟩

/-- A path as the library for files takes it. -/
def pathText (path : Bytes) : String :=
  String.ofList (Utf8.decode path)

/-- What is wrong with a file, from the error that the system reports. -/
def problemOf : IO.Error → FileProblem
  | .noFileOrDirectory .. => .missing
  | .resourceExhausted .. => .full
  | .inappropriateType _ 20 _ => .notDirectory
  | .inappropriateType _ 21 _ => .isDirectory
  | .invalidArgument _ 22 _ => .invalidName
  | .invalidArgument _ 36 _ => .longName
  | e => .other (toString e)

/-- Try a call on a file. -/
def attempt {α : Type} (call : FileCall) (path : Bytes) (act : IO α) : IO (Except FileError α) := do
  match ← act.toBaseIO with
  | .ok a => return .ok a
  | .error e => return .error ⟨call, path, problemOf e⟩

/-- Read a file. -/
def readFile (path : Bytes) : IO (Except FileError Bytes) := do
  match ← attempt .opening path (IO.FS.Handle.mk (pathText path) .read) with
  | .error e => return .error e
  | .ok h =>
    match ← attempt .reading path h.readBinToEnd with
    | .error e => return .error e
    | .ok content => return .ok content.toList

/-- Open a file to add to. -/
def openLog (path : Bytes) : IO (Option FileError) := do
  match ← attempt .opening path (IO.FS.Handle.mk (pathText path) .append) with
  | .ok _ => return none
  | .error e => return some e

/-- Add to a file; a log that cannot be written is none. -/
def appendLog (path bytes : Bytes) : IO Unit := do
  let _ ← attempt .writing path
    (IO.FS.withFile (pathText path) .append fun h => h.write (block bytes))

/-- Make a file anew with the given calls. -/
def save (path : Bytes) (calls : List WavCall) : IO (Option CommandError) := do
  match ← attempt .opening path (IO.FS.Handle.mk (pathText path) .write) with
  | .error e => return some (.file e)
  | .ok h =>
    let (file, _) := perform {} calls
    match ← attempt .writing path (do h.write (block file.bytes); h.flush) with
    | .ok _ => return none
    | .error e => return some (.wav (.write .riffTag (String.ofList (Utf8.decode e.message))))

/-- Run a program to its end, with as many rounds as it takes. -/
partial def play (h : Headless) (rounds : Nat) : IO Performance := do
  match h.run rounds with
  | some p => return p
  | none => play h (rounds * 8)

/-- Answer the requests of a screen until it has none; whether it asked to leave. -/
partial def settle (s : Screen) (log : List Log.Entry) :
    Option Request → IO (Screen × List Log.Entry × Bool)
  | none => return (s, log, false)
  | some .quit => return (s, log, true)
  | some r => do
    if let .tick _ := r then
      IO.sleep (s.settings.speed.nanoseconds / 1000000).toNat.toUInt32
    let next := s.update r.message
    settle next.screen (log ++ next.log) next.request

/-- Press keys one after another, until one of them leaves the screen. -/
def press (s : Screen) (log : List Log.Entry) :
    List Char → IO (Screen × List Log.Entry × Bool)
  | [] => return (s, log, false)
  | c :: rest => do
    let next := s.update (.key { text := c.toString })
    let (s, log, left) ← settle next.screen (log ++ next.log) next.request
    if left then return (s, log, true) else press s log rest

/-- Show a screen and take a line of keys, until the user leaves. -/
partial def watch (s : Screen) (log : List Log.Entry) : IO (Screen × List Log.Entry) := do
  let stdout ← IO.getStdout
  stdout.write (block (s.view ++ Bytes.ofString "\n"))
  stdout.flush
  let line ← (← IO.getStdin).getLine
  if line.isEmpty then return (s, log)
  let (s, log, left) ← press s log line.toList
  if left then return (s, log) else watch s log

/-- How many rounds a program is given at first. -/
def firstRounds : Nat := 100000

/-- Carry out a script. -/
def carryOut : Script → IO (Option CommandError)
  | .done error => return error
  | .print bytes next => do
    (← IO.getStdout).write (block bytes)
    carryOut next
  | .warn bytes next => do
    (← IO.getStderr).write (block bytes)
    carryOut next
  | .readFile path next => do carryOut (next (← readFile path))
  | .openLog path next => do carryOut (next (← openLog path))
  | .appendLog path bytes next => do
    appendLog path bytes
    carryOut next
  | .save path calls next => do carryOut (next (← save path calls))
  | .play h next => do carryOut (next (← play h firstRounds))
  | .watch s next => do
    let (s, log) ← watch s []
    carryOut (next s log)

end TapeDeck.Terminal

/-- The program. -/
def main (args : List String) : IO UInt32 := do
  let error ← TapeDeck.Terminal.carryOut
    (TapeDeck.command {} (args.map TapeDeck.Bytes.ofString))
  if let some e := error then
    (← IO.getStderr).write (TapeDeck.Terminal.block e.farewell)
  return (TapeDeck.exitCode error).toUInt32
