import TapeDeck.Duration
import TapeDeck.Tape
import TapeDeck.Text.Quoted

/-!
# Options

The arguments of the command: flags with one or two hyphens, their values after an equals sign or
as the next argument, up to the first argument that is no flag. A switch takes a value only after
an equals sign. All flags stand in one table (`flags`), which both reading and the help text use.
-/

namespace TapeDeck

/-- What the command is asked to do. -/
structure Options where
  id : Int := 0
  file : Bytes := []
  catalog : Bytes := []
  tapeSize : Int := Tape.defaultSize
  speed : Duration := .tenthOfSecond
  animate : Bool := false
  encoding : Bytes := Bytes.ofString "utf-8"
  tui : Bool := false
  list : Bool := false
  wav : Bytes := []
  log : Bytes := []
  trace : Bool := false
  dump : Bool := false
  verbose : Bool := false
  deriving DecidableEq, Repr

/-! ## Flags -/

/-- How the value of a flag is read and where it goes. -/
inductive FlagKind where
  | switch (set : Bool → Options → Options)
  | number (set : Int → Options → Options)
  | duration (set : Duration → Options → Options)
  | text (set : Bytes → Options → Options)

/-- How the help text names the values of a flag; a switch has none to name. -/
def FlagKind.valueName : FlagKind → String
  | switch _ => ""
  | number _ => " int"
  | duration _ => " duration"
  | text _ => " string"

/-- A flag of the command. -/
structure Flag where
  name : String
  kind : FlagKind
  help : String
  /-- The value that stands when the flag is not given, where the help text says it. -/
  standing : Option String := none

/-- All flags, in the order of their names. -/
def flags : List Flag :=
  [⟨"animate", .switch fun b o => { o with animate := b },
      "step at -speed instead of as fast as possible", none⟩,
   ⟨"catalog", .text fun s o => { o with catalog := s },
      "program catalog (yaml), the built in catalog when empty", none⟩,
   ⟨"dump", .switch fun b o => { o with dump := b },
      "print the tape when the program ends", none⟩,
   ⟨"encoding", .text fun s o => { o with encoding := s },
      "how output bytes are shown: utf-8, latin1 or cp437", some "\"utf-8\""⟩,
   ⟨"file", .text fun s o => { o with file := s },
      "run a program from a source file instead of the catalog", none⟩,
   ⟨"id", .number fun n o => { o with id := n },
      "catalog id of the program to run", none⟩,
   ⟨"list", .switch fun b o => { o with list := b },
      "print the program listing and exit", none⟩,
   ⟨"log", .text fun s o => { o with log := s },
      "log file, stderr when headless and discarded under -tui when empty", none⟩,
   ⟨"speed", .duration fun d o => { o with speed := d },
      "delay between steps when auto running", some "100ms"⟩,
   ⟨"tape", .number fun n o => { o with tapeSize := n },
      "number of tape cells", some "10"⟩,
   ⟨"trace", .switch fun b o => { o with trace := b },
      "print every step", none⟩,
   ⟨"tui", .switch fun b o => { o with tui := b },
      "step through the program in the terminal ui", none⟩,
   ⟨"v", .switch fun b o => { o with verbose := b },
      "debug logging", none⟩,
   ⟨"wav", .text fun s o => { o with wav := s },
      "write the command tones of the run to a wav file " ++
        "(under -tui, the run since the last reset)", none⟩]

/-- The flag of a name. -/
def flag? (name : Bytes) : Option Flag :=
  flags.find? fun f => Bytes.ofString f.name = name

/-- A flag in the help text. A short flag without values has its help on the same line. -/
def Flag.usage (f : Flag) : String :=
  let head := "  -" ++ f.name ++ f.kind.valueName
  head ++ (if head.length ≤ 4 then "\t" else "\n    \t") ++ f.help ++
    (match f.standing with
     | some v => " (default " ++ v ++ ")"
     | none => "") ++ "\n"

/-- The help text. -/
def usage : String :=
  "Usage of brainstuck:\n" ++ String.join (flags.map Flag.usage)

/-! ## Errors -/

/-- Why the arguments cannot be used. -/
inductive FlagError where
  | helpRequested
  | badForm (arg : Bytes)
  | unknown (name : Bytes)
  | missingValue (name : Bytes)
  | badSwitch (name value : Bytes)
  | badValue (name value : Bytes) (why : Text.NumeralError)
  deriving DecidableEq, Repr

/-- The wording of why a value cannot be read. -/
def numeralWording : Text.NumeralError → String
  | .malformed => "parse error"
  | .outOfRange => "value out of range"

/-- The wording of an error in the arguments. -/
def FlagError.message : FlagError → Bytes
  | helpRequested => Bytes.ofString "flag: help requested"
  | badForm arg => Bytes.ofString "bad flag syntax: " ++ arg
  | unknown name => Bytes.ofString "flag provided but not defined: -" ++ name
  | missingValue name => Bytes.ofString "flag needs an argument: -" ++ name
  | badSwitch name value =>
    Bytes.ofString ("invalid boolean value " ++ Text.quoted value ++ " for -") ++ name ++
      Bytes.ofString (": " ++ numeralWording .malformed)
  | badValue name value why =>
    Bytes.ofString ("invalid value " ++ Text.quoted value ++ " for flag -") ++ name ++
      Bytes.ofString (": " ++ numeralWording why)

/-- What is printed for an error: its wording, and the help text. Asked-for help is only the
latter. -/
def FlagError.report (e : FlagError) : Bytes :=
  (if e = .helpRequested then [] else e.message ++ Bytes.ofString "\n") ++ Bytes.ofString usage

/-! ## Reading -/

/-- A switch position. -/
def switch? (value : Bytes) : Option Bool :=
  if ["1", "t", "T", "true", "TRUE", "True"].any fun s => Bytes.ofString s = value then some true
  else if ["0", "f", "F", "false", "FALSE", "False"].any fun s => Bytes.ofString s = value then
    some false
  else none

/-- Read a value and put it into the options. -/
def Flag.set (f : Flag) (name value : Bytes) (o : Options) : Except FlagError Options :=
  match f.kind with
  | .switch set =>
    match switch? value with
    | some b => .ok (set b o)
    | none => .error (.badSwitch name value)
  | .number set =>
    match Text.readInt (value.map byteChar) with
    | .ok n => .ok (set n o)
    | .error e => .error (.badValue name value e)
  | .duration set =>
    match Duration.parse? value with
    | some d => .ok (set d o)
    | none => .error (.badValue name value .malformed)
  | .text set => .ok (set value o)

/-- Whether a flag takes the next argument when no equals sign is there. -/
def Flag.takesNext (f : Flag) : Bool :=
  match f.kind with
  | .switch _ => false
  | _ => true

/-- An argument: one that ends the flags, one that cannot be read, or a flag with the value after
its equals sign. -/
inductive Argument where
  | stop
  | bad
  | flag (name : Bytes) (value : Option Bytes)
  deriving DecidableEq, Repr

/-- The name and value of a flag without its hyphens. -/
def splitFlag (s : Bytes) : Argument :=
  match s with
  | [] => .bad
  | 0x2D :: _ => .bad
  | 0x3D :: _ => .bad
  | _ =>
    let name := s.takeWhile (· != 0x3D)
    .flag name ((s.drop name.length).tail?)

/-- Read an argument. A hyphen alone and two of them end the flags. -/
def Argument.ofBytes (arg : Bytes) : Argument :=
  match arg with
  | [0x2D] => .stop
  | [0x2D, 0x2D] => .stop
  | 0x2D :: 0x2D :: rest => splitFlag rest
  | 0x2D :: rest => splitFlag rest
  | _ => .stop

namespace Options

/-- Read arguments into options. -/
def parseFrom : List Bytes → Options → Except FlagError Options
  | [], o => .ok o
  | arg :: rest, o =>
    match Argument.ofBytes arg with
    | .stop => .ok o
    | .bad => .error (.badForm arg)
    | .flag name value =>
      match flag? name with
      | none =>
        if name = Bytes.ofString "help" ∨ name = Bytes.ofString "h" then .error .helpRequested
        else .error (.unknown name)
      | some f =>
        match value with
        | some v =>
          match f.set name v o with
          | .ok o => parseFrom rest o
          | .error e => .error e
        | none =>
          if f.takesNext then
            match rest with
            | [] => .error (.missingValue name)
            | v :: rest =>
              match f.set name v o with
              | .ok o => parseFrom rest o
              | .error e => .error e
          else
            match f.set name (Bytes.ofString "true") o with
            | .ok o => parseFrom rest o
            | .error e => .error e

/-- The options that arguments ask for. -/
def parse (args : List Bytes) : Except FlagError Options :=
  parseFrom args {}

end Options

end TapeDeck
