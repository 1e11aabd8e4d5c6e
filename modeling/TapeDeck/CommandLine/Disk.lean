import TapeDeck.Text.Bytes

/-!
# Files

What the command can find out about files, and a folder held in memory that answers it. A path is
followed name by name from the folder in memory or from the root. Of everything outside that folder
only the folders that every system has and three devices are known.
-/

namespace TapeDeck

/-- Why a file cannot be used. -/
inductive FileProblem where
  | missing
  | isDirectory
  | notDirectory
  | invalidName
  | longName
  | full
  | other (why : String)
  deriving DecidableEq, Repr

/-- The wording of a problem. -/
def FileProblem.message : FileProblem → String
  | missing => "no such file or directory"
  | isDirectory => "is a directory"
  | notDirectory => "not a directory"
  | invalidName => "invalid argument"
  | longName => "file name too long"
  | full => "no space left on device"
  | other why => why

/-- What was tried on a file. -/
inductive FileCall where
  | opening
  | reading
  | writing
  deriving DecidableEq, Repr

/-- The name of a call. -/
def FileCall.name : FileCall → String
  | opening => "open"
  | reading => "read"
  | writing => "write"

/-- A call on a file that failed. -/
structure FileError where
  call : FileCall
  path : Bytes
  problem : FileProblem
  deriving DecidableEq, Repr

/-- The wording of a failed call. -/
def FileError.message (e : FileError) : Bytes :=
  Bytes.ofString (e.call.name ++ " ") ++ e.path ++ Bytes.ofString (": " ++ e.problem.message)

/-! ## Folders and what is in them -/

/-- The folders that a path can pass through. Only the content of the working folder is known. -/
inductive Folder where
  /-- The folder that a relative path starts from. -/
  | working
  /-- The folder around the working folder. -/
  | outer
  /-- The folder that an absolute path starts from. -/
  | root
  | devices
  /-- Any other folder that every system has. -/
  | system
  deriving DecidableEq, Repr

/-- The devices that stand for themselves. All three take writes; the full one refuses each. -/
inductive Device where
  /-- Reading finds its end at once. -/
  | null
  /-- Reading gives zero bytes without end. -/
  | zero
  /-- Reading gives zero bytes without end, and no write fits. -/
  | full
  deriving DecidableEq, Repr

/-- What a path leads to. -/
inductive Place where
  | folder (f : Folder)
  | device (d : Device)
  /-- A file of the given name, or the place for one. -/
  | entry (f : Folder) (name : Bytes)
  deriving DecidableEq, Repr

namespace Folder

/-- The folder around a folder; the root is its own. -/
def parent : Folder → Folder
  | working => outer
  | outer | root | devices | system => root

/-- The names of the folders at the root, apart from the one of the devices. -/
def systemNames : List Bytes :=
  ["bin", "etc", "home", "lib", "proc", "root", "run", "sbin", "sys", "tmp", "usr", "var"].map
    Bytes.ofString

/-- What a name stands for in a folder. -/
def lookUp (f : Folder) (name : Bytes) : Place :=
  match f with
  | root =>
    if name = Bytes.ofString "dev" then .folder devices
    else if systemNames.contains name then .folder system
    else .entry root name
  | devices =>
    if name = Bytes.ofString "null" then .device .null
    else if name = Bytes.ofString "zero" then .device .zero
    else if name = Bytes.ofString "full" then .device .full
    else .entry devices name
  | working | outer | system => .entry f name

end Folder

/-! ## Paths -/

/-- The byte that separates the names of a path. -/
def slash : UInt8 := 0x2F

/-- The name by which a folder calls itself. -/
def selfName : Bytes := Bytes.ofString "."

/-- The name by which a folder calls the one around it. -/
def parentName : Bytes := Bytes.ofString ".."

/-- The longest name that a file can have. -/
def longestName : Nat := 255

/-- The longest path that can be followed. -/
def longestPath : Nat := 4095

/-- A path, cut into its names. -/
structure Path where
  start : Folder
  names : List Bytes
  /-- Whether a slash stands after the last name, so that only a folder will do. -/
  closed : Bool
  deriving DecidableEq, Repr

/-- The names of a path. Slashes side by side count as one. -/
def Path.split (path : Bytes) : List Bytes :=
  let (name, names) := path.foldr (fun b (name, names) =>
    if b = slash then ([], if name = [] then names else name :: names) else (b :: name, names))
    ([], [])
  if name = [] then names else name :: names

/-- Cut a path into its names, if it can be followed at all. -/
def Path.ofBytes (path : Bytes) : Except FileProblem Path :=
  if path.contains 0 then .error .invalidName
  else if path.length > longestPath then .error .longName
  else if path = [] then .error .missing
  else .ok
    { start := if path.head? = some slash then .root else .working
      names := Path.split path
      closed := path.getLast? = some slash }

/-! ## A folder in memory -/

/-- The working folder: its files by name. -/
structure Disk where
  files : List (Bytes × Bytes)
  deriving DecidableEq, Repr

namespace Disk

/-- The content of a file of the working folder. -/
def content? (d : Disk) (name : Bytes) : Option Bytes :=
  (d.files.find? fun f => f.1 = name).map Prod.snd

/-- Give a file a content, and make it if it is not there. -/
def put (d : Disk) (name content : Bytes) : Disk :=
  if (d.content? name).isSome then
    ⟨d.files.map fun f => if f.1 = name then (name, content) else f⟩
  else ⟨d.files ++ [(name, content)]⟩

/-- Whether something is at a place. -/
def holds (d : Disk) : Place → Bool
  | .folder _ | .device _ => true
  | .entry .working name => (d.content? name).isSome
  | .entry _ _ => false

/-- Follow names from a folder. Only through a folder does a path go on. -/
def follow (d : Disk) : Folder → List Bytes → Except FileProblem Place
  | f, [] => .ok (.folder f)
  | f, name :: rest =>
    if name = selfName then d.follow f rest
    else if name = parentName then d.follow f.parent rest
    else if name.length > longestName then .error .longName
    else
      match f.lookUp name with
      | .folder g => d.follow g rest
      | place =>
        if rest = [] then .ok place
        else .error (if d.holds place then .notDirectory else .missing)

/-- What a path leads to when it is opened for reading. A slash at the end asks for a folder, just
as the folder's own name for itself does. -/
def reading (d : Disk) (path : Bytes) : Except FileProblem Place := do
  let p ← Path.ofBytes path
  d.follow p.start (if p.closed then p.names ++ [selfName] else p.names)

/-- What a path leads to when it is opened for writing, which makes a file that is not there. A
slash at the end asks for a folder, whatever stands before it. -/
def writing (d : Disk) (path : Bytes) : Except FileProblem Place := do
  let p ← Path.ofBytes path
  let place ← d.follow p.start (if p.closed then p.names.dropLast ++ [selfName] else p.names)
  match place with
  | .folder _ => .error .isDirectory
  | _ => .ok place

/-- The content of a file. A folder can be opened but not read. Of the zero bytes that never end one
is given. -/
def read (d : Disk) (path : Bytes) : Except FileError Bytes :=
  match d.reading path with
  | .error problem => .error ⟨.opening, path, problem⟩
  | .ok (.folder _) => .error ⟨.reading, path, .isDirectory⟩
  | .ok (.device .null) => .ok []
  | .ok (.device .zero) | .ok (.device .full) => .ok [0]
  | .ok (.entry .working name) =>
    match d.content? name with
    | some content => .ok content
    | none => .error ⟨.opening, path, .missing⟩
  | .ok (.entry _ _) => .error ⟨.opening, path, .missing⟩

/-- The problem with opening a path for writing, if there is one. -/
def writeProblem? (d : Disk) (path : Bytes) : Option FileProblem :=
  match d.writing path with
  | .error problem => some problem
  | .ok _ => none

/-- Whether a path leads to the device that no write fits on. -/
def isFull (d : Disk) (path : Bytes) : Bool :=
  match d.writing path with
  | .ok (.device .full) => true
  | _ => false

/-- Add bytes at the end of a file. What goes elsewhere than into the working folder is not seen
again. -/
def append (d : Disk) (path bytes : Bytes) : Disk :=
  match d.writing path with
  | .ok (.entry .working name) => d.put name ((d.content? name).getD [] ++ bytes)
  | _ => d

/-- Give a file its whole content. What goes elsewhere than into the working folder is not seen
again. -/
def store (d : Disk) (path bytes : Bytes) : Disk :=
  match d.writing path with
  | .ok (.entry .working name) => d.put name bytes
  | _ => d

end Disk

end TapeDeck
