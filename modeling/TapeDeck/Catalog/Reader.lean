import TapeDeck.Catalog.AnyShape

/-!
# Catalog files

A catalog file is a mapping with a sequence `programs`, whose items are mappings with the fields
`id`, `name` and `source`. Everything may be left out. Nodes of the wrong kind, fields of other
names and keys given twice are collected, so that all of them are reported at once; a problem
with the text itself ends the reading.

A field may be taken over from other mappings with a merge key; a field that is given outright
wins.
-/

namespace TapeDeck.CatalogFile

open Yaml (Document)

/-! ## Mappings with fields -/

/-- The fields of a mapping that is read as a record. -/
structure Fields (σ : Type) where
  shape : Shape
  /-- How the field of a name is read from node `i`. -/
  set? : Bytes → Option (σ → List Nat → Nat → Read σ)

/-- A record as far as it is read: its value, and when other mappings are being merged into it,
the keys that are already given. -/
structure Partway (σ : Type) where
  value : σ
  given : Given

/-- Read the pairs of a mapping; the node to be merged, if any, is returned. -/
def readPairs {σ : Type} (d : Document) (fields : Fields σ) (aliases : List Nat) :
    List (Nat × Nat) → List Bytes → Option Nat → Partway σ → Read (Partway σ × Option Nat)
  | [], _, merge, p => return (p, merge)
  | (k, v) :: rest, done, merge, p => do
    let key := d.node k
    if isMerge key then readPairs d fields aliases rest done (some v) p
    else
      match ← readText d aliases k with
      | none => readPairs d fields aliases rest done merge p
      | some name =>
        if p.given.any (·.any (·.same (.text name))) then readPairs d fields aliases rest done merge p
        else
          let p := { p with given := p.given.map (.text name :: ·) }
          match fields.set? name with
          | some set =>
            if done.contains name then
              report (.fieldSetTwice key.line name fields.shape)
              readPairs d fields aliases rest done merge p
            else
              let value ← set p.value aliases v
              readPairs d fields aliases rest (name :: done) merge { p with value }
          | none =>
            report (.unknownField key.line name fields.shape)
            readPairs d fields aliases rest done merge p

/-! ## Records -/

/-- Read a mapping as a record, and what it merges after it. The flag tells whether the node was
one. -/
def readRecord {σ : Type} (d : Document) (fields : Fields σ) :
    Nat → List Nat → Nat → Partway σ → Read (Partway σ × Bool)
  | 0, _, _, p => return (p, false)
  | depth + 1, aliases, i, p => do
    let (n, aliases) ← resolve d aliases i
    match n.kind with
    | .mapping pairs =>
      if ← checkKeys d pairs then
        let (p, merge) ← readPairs d fields aliases pairs [] none p
        match merge with
        | none => return (p, true)
        | some m =>
          let outer := p.given
          let given ← match outer with
            | some keys => pure keys
            | none => readKeys d depth aliases pairs
          let p := { p with given := some given }
          let sources ← mergeSources d m
          let p ← sources.foldlM (fun p s => do
            if isMapping d s then
              let (p, _) ← readRecord d fields depth aliases s p
              return p
            else stop .mergeNeedsMap) p
          return ({ p with given := if outer.isSome then p.given else none }, true)
      else return (p, false)
    | .scalar text =>
      match (← meaning n text).1 with
      | .null => return (p, false)
      | _ =>
        wrongKind n fields.shape
        return (p, false)
    | _ =>
      wrongKind n fields.shape
      return (p, false)

/-- A bound on how deep mappings can be merged into one another. -/
def mergeDepth (d : Document) : Nat :=
  (d.nodes.size + 1) * (d.nodes.size + 1)

/-! ## Catalogs -/

/-- The fields of a program. -/
def programFields (d : Document) : Fields Program where
  shape := .program
  set? name :=
    if name = Bytes.ofString "id" then
      some fun p aliases i => return { p with id := (← readNumber d aliases i).getD p.id }
    else if name = Bytes.ofString "name" then
      some fun p aliases i => return { p with name := (← readText d aliases i).getD p.name }
    else if name = Bytes.ofString "source" then
      some fun p aliases i => return { p with source := (← readText d aliases i).getD p.source }
    else none

/-- Programs; a null item is dropped, and a null is no programs. -/
def readPrograms (d : Document) (before : List Program) (aliases : List Nat) (i : Nat) :
    Read (List Program) := do
  let (n, aliases) ← resolve d aliases i
  match n.kind with
  | .sequence items =>
    let programs ← items.foldlM (fun programs item => do
      let (p, good) ← readRecord d (programFields d) (mergeDepth d) aliases item ⟨{}, none⟩
      return if good then programs.push p.value else programs) #[]
    return programs.toList
  | .scalar text =>
    match (← meaning n text).1 with
    | .null => return []
    | _ =>
      wrongKind n .programs
      return before
  | _ =>
    notScalar d n .programs
    return before

/-- The fields of a catalog file. -/
def fileFields (d : Document) : Fields (List Program) where
  shape := .file
  set? name := if name = Bytes.ofString "programs" then some (readPrograms d) else none

/-- The programs of a document. -/
def readDocument (d : Document) : Except Error (List Program) :=
  match (readRecord d (fileFields d) (mergeDepth d) [] d.root ⟨[], none⟩).run ⟨#[], 1, 0⟩ with
  | .error e => .error (.yaml e)
  | .ok ((p, _), r) =>
    if r.misfits.isEmpty then .ok p.value else .error (.misfits r.misfits.toList)

/-- The programs of a catalog file; an empty one has none. -/
def readProgramList (text : Bytes) : Except Error (List Program) :=
  match Yaml.parse text with
  | .error e => .error (.yaml e)
  | .ok none => .ok []
  | .ok (some d) => readDocument d

/-- The catalog of a catalog file. -/
def read (text : Bytes) : Except Error Catalog :=
  match readProgramList text with
  | .error e => .error e
  | .ok programs =>
    match Catalog.ofPrograms programs with
    | .ok c => .ok c
    | .error e => .error (.duplicate e)

end TapeDeck.CatalogFile
