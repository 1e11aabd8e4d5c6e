import TapeDeck.Catalog.Reading
import TapeDeck.Yaml.Value

/-!
# Reading nodes of any shape

The keys of a mapping with a merge key are read without asking for a shape, so that they can be told
from the keys that are merged. A list or a table cannot be told from others, so it is no such key,
and it is no key of a table either.
-/

namespace TapeDeck.CatalogFile

open Yaml (Document Atom Value insertEntry)

/-- The keys that are already there, while mappings are merged. -/
abbrev Given := Option (List Atom)

/-- Whether a node, or the node it stands for, can be the key of a mapping with named values. -/
def isName (d : Document) (i : Nat) : Bool :=
  let n := d.node i
  let tag :=
    match n.kind with
    | .alias _ target => (d.node target).tag
    | _ => n.tag
  tag = .str || tag = .merge

/-- The keys with one more, which has to be an atom. -/
def giveKey (given : List Atom) (key : Value) : Read (List Atom) :=
  match key with
  | .atom a => return a :: given
  | .list _ => stop (.unhashableKey Value.listType)
  | .table named _ => stop (.unhashableKey (Value.tableType named))

/-- The keys with one more; none when the key is already there. -/
def giveNewKey (given : Given) (key : Value) : Read (Option Given) :=
  match given with
  | none => return some none
  | some given => do
    let more ← giveKey given key
    match key with
    | .atom a => return if given.any (·.same a) then none else some (some more)
    | _ => return none

/-- A table as far as it is read: its entries, the keys given, and the node to be merged. -/
structure Entries where
  entries : List (Atom × Value)
  given : Given
  merge : Option Nat := none

mutual

/-- Read a node; none when it is a mapping with a key twice. -/
def readValue (d : Document) : Nat → List Nat → Given → Nat → Read (Option Value × Given)
  | 0, _, given, _ => return (none, given)
  | depth + 1, aliases, given, i => do
    let (n, aliases) ← resolve d aliases i
    match n.kind with
    | .scalar text =>
      let (m, bytes) ← meaning n text
      return (some (.atom (.ofMeaning m bytes)), given)
    | .sequence items =>
      let (values, given) ← items.foldlM (fun (values, given) item => do
        let (value, given) ← readValue d depth aliases given item
        return (values ++ value.toList, given)) ([], given)
      return (some (.list values), given)
    | .mapping pairs =>
      let named := pairs.all fun (k, _) => isName d k
      let (entries, given) ← readEntries d depth aliases named pairs ⟨[], given, none⟩
      return (entries.map (.table named), given)
    | .alias .. => return (none, given)

/-- Add the pairs of a mapping to a table, and what it merges after it; none when it has a key
twice. -/
def readEntries (d : Document) : Nat → List Nat → Bool → List (Nat × Nat) → Entries →
    Read (Option (List (Atom × Value)) × Given)
  | 0, _, _, _, t => return (none, t.given)
  | depth + 1, aliases, named, pairs, t => do
    if !(← checkKeys d pairs) then return (none, t.given)
    let t ← pairs.foldlM (fun (t : Entries) (k, v) => do
      if isMerge (d.node k) then return { t with merge := some v }
      let key ←
        if named then pure ((← readText d aliases k).map fun name => .atom (.text name))
        else pure (← readValue d depth aliases none k).1
      match key with
      | none => return t
      | some key =>
        match ← giveNewKey t.given key with
        | none => return t
        | some given =>
          match key with
          | .atom a =>
            let (value, _) ← readValue d depth aliases none v
            let entries := (value.map (insertEntry a · t.entries)).getD t.entries
            return { t with given, entries }
          | _ => stop (.invalidKey key.shown)) t
    match t.merge with
    | none => return (some t.entries, t.given)
    | some m =>
      let given ← match t.given with
        | some given => pure given
        | none => readKeys d depth aliases pairs
      let (entries, given) ← (← mergeSources d m).foldlM (fun (entries, given) source => do
        if !isMapping d source then stop .mergeNeedsMap
        let (n, aliases) ← resolve d aliases source
        match n.kind with
        | .mapping pairs =>
          let (more, given) ← readEntries d depth aliases named pairs ⟨entries, some given, none⟩
          return (more.getD entries, given.getD [])
        | _ => return (entries, given)) (t.entries, given)
      return (some entries, t.given.map fun _ => given)

/-- The keys of a mapping. -/
def readKeys (d : Document) : Nat → List Nat → List (Nat × Nat) → Read (List Atom)
  | 0, _, _ => return []
  | depth + 1, aliases, pairs =>
    pairs.foldlM (fun given (k, _) => do
      let (key, more) ← readValue d depth aliases (some given) k
      match key with
      | some key => giveKey (more.getD given) key
      | none => return more.getD given) []

end

end TapeDeck.CatalogFile
