import TapeDeck.Catalog.Misfit

/-!
# Reading nodes

Reading walks over the nodes of a document. It collects the nodes that do not fit and stops at a
problem. It counts what it reads: a text in which nearly all of the reading is done through aliases
is refused.
-/

namespace TapeDeck.CatalogFile

open Yaml (Document Node NodeKind Meaning Tag)

/-! ## Counting and collecting -/

/-- What has been found, and how much has been read. -/
structure Reading where
  misfits : Array Misfit
  /-- How many nodes have been read, each as often as it was. -/
  nodes : Nat
  /-- How many of them were read through an alias. -/
  aliased : Nat

/-- Whether too much is read through aliases: more than 99 in 100 nodes of a text of up to 400000,
and from there on less and less, down to 10 in 100 of 4000000 and more. -/
def Reading.excessive (r : Reading) : Bool :=
  r.aliased > 100 && r.nodes > 1000 &&
    (if r.nodes ≤ 400000 then r.aliased * 100 > r.nodes * 99
     else if r.nodes ≥ 4000000 then r.aliased * 100 > r.nodes * 10
     else r.aliased * 360000000 > r.nodes * (99 * 3600000 - 89 * (r.nodes - 400000)))

/-- Reading collects misfits and stops at a problem. -/
abbrev Read := StateT Reading (Except Yaml.Error)

/-- Collect a misfit. -/
def report (m : Misfit) : Read Unit :=
  modify fun r => { r with misfits := r.misfits.push m }

/-- Stop at a problem. -/
def stop {α : Type} (p : Yaml.Problem) : Read α :=
  throw (.plain p)

/-- Count a node that is read within the given aliases. -/
def visit (aliases : List Nat) : Read Unit := do
  let r ← get
  let r := { r with
    nodes := r.nodes + 1
    aliased := if aliases.isEmpty then r.aliased else r.aliased + 1 }
  if r.excessive then stop .excessiveAliasing
  set r

/-- The node that node `i` stands for, and the aliases on the way to it, of which none may come
twice. -/
def resolve (d : Document) (aliases : List Nat) (i : Nat) : Read (Node × List Nat) := do
  visit aliases
  let n := d.node i
  match n.kind with
  | .alias _ target =>
    if aliases.contains i then stop (.selfContained n.value)
    visit (i :: aliases)
    return (d.node target, i :: aliases)
  | _ => return (n, aliases)

/-- Collect that a node is of the wrong kind. -/
def wrongKind (n : Node) (wanted : Shape) : Read Unit :=
  report (.wrongKind n.line n.tag n.value wanted)

/-- Whether two nodes are the same key: of one kind and of one text. Two sequences or two mappings
always are, having no text of their own. -/
def sameKey (m n : Node) : Bool :=
  match m.kind, n.kind with
  | .scalar s, .scalar t => s = t
  | .alias a _, .alias b _ => a = b
  | .sequence _, .sequence _ => true
  | .mapping _, .mapping _ => true
  | _, _ => false

/-- The keys of a mapping that came before. -/
def repeatedKeys : List Node → List Misfit
  | [] => []
  | k :: rest =>
    (rest.filter (sameKey k)).map (fun r => .repeatedKey r.line r.value k.line) ++
      repeatedKeys rest

/-- Collect the keys of a mapping that came before, and tell whether there were any. -/
def checkKeys (d : Document) (pairs : List (Nat × Nat)) : Read Bool := do
  let misfits := repeatedKeys (pairs.map fun (k, _) => d.node k)
  misfits.forM report
  return misfits.isEmpty

/-- Collect that a sequence or mapping stands where `wanted` should. -/
def notScalar (d : Document) (n : Node) (wanted : Shape) : Read Unit :=
  match n.kind with
  | .mapping pairs => do
    if ← checkKeys d pairs then wrongKind n wanted
  | _ => wrongKind n wanted

/-- The meaning of a scalar node, and its bytes. -/
def meaning (n : Node) (text : List Char) : Read (Meaning × Bytes) :=
  if n.tag = .binary then
    match Yaml.base64? text with
    | some bytes => return (.text, bytes)
    | none => stop .invalidBase64
  else
    match Yaml.taggedMeaning n.tag text with
    | .ok m => return (m, n.value)
    | .error p => stop p

/-- The signed 64-bit number that a fraction is cut to. What is below the range goes to its lower
end, and so does the first number above it; the rest is refused. -/
def truncated (x : Float) : Option Int :=
  if x < 9223372036854775808.0 then some x.toInt64.toInt
  else if x == 9223372036854775808.0 then some (-9223372036854775808)
  else none

/-- A number; a null is none. -/
def readNumber (d : Document) (aliases : List Nat) (i : Nat) : Read (Option Int) := do
  let (n, _) ← resolve d aliases i
  match n.kind with
  | .scalar text =>
    match (← meaning n text).1 with
    | .null => return none
    | .int k => return some k
    | .float x =>
      match truncated x with
      | some k => return some k
      | none =>
        wrongKind n .number
        return none
    | _ =>
      wrongKind n .number
      return none
  | _ =>
    notScalar d n .number
    return none

/-- A text, which any scalar is; a null is none. -/
def readText (d : Document) (aliases : List Nat) (i : Nat) : Read (Option Bytes) := do
  let (n, _) ← resolve d aliases i
  match n.kind with
  | .scalar text =>
    match ← meaning n text with
    | (.null, _) => return none
    | (_, bytes) => return some bytes
  | _ =>
    notScalar d n .text
    return none

/-! ## Merge keys -/

/-- Whether a key asks for a merge. -/
def isMerge (n : Node) : Bool :=
  match n.kind with
  | .scalar text => text = ['<', '<'] && n.tag = .merge
  | _ => false

/-- Whether a node, or the node it stands for, is a mapping. -/
def isMapping (d : Document) (i : Nat) : Bool :=
  match (d.node i).kind with
  | .mapping _ => true
  | .alias _ target =>
    match (d.node target).kind with
    | .mapping _ => true
    | _ => false
  | _ => false

/-- The mappings that a merge key names. -/
def mergeSources (d : Document) (i : Nat) : Read (List Nat) :=
  if isMapping d i then return [i]
  else
    match (d.node i).kind with
    | .sequence items => return items
    | _ => stop .mergeNeedsMap

end TapeDeck.CatalogFile
