import TapeDeck.Catalog.Basic
import TapeDeck.Text.Quoted
import TapeDeck.Yaml.Node

/-!
# What can be wrong with a catalog file

A node that does not fit is reported with its line; all of them are reported at once. A problem with
the text itself, or two programs of one id, stand alone.
-/

namespace TapeDeck.CatalogFile

open Yaml (Tag)

/-- What a node is read as. -/
inductive Shape where
  | number
  | text
  | program
  | programs
  | file
  deriving DecidableEq, Repr

/-- How reports name a shape. -/
def Shape.name : Shape → String
  | number => "int"
  | text => "string"
  | program => "catalog.Program"
  | programs => "[]catalog.Program"
  | file => "catalog.catalogFile"

/-- A node that does not fit. -/
inductive Misfit where
  | wrongKind (line : Nat) (tag : Tag) (value : Bytes) (wanted : Shape)
  | unknownField (line : Nat) (name : Bytes) (within : Shape)
  | fieldSetTwice (line : Nat) (name : Bytes) (within : Shape)
  | repeatedKey (line : Nat) (key : Bytes) (first : Nat)
  deriving DecidableEq, Repr

/-- A value in a report: at most ten bytes, or the first seven and three points. -/
def excerpt (value : Bytes) : Bytes :=
  if value.length > 10 then value.take 7 ++ Bytes.ofString "..." else value

/-- How reports show the text of a node with a tag; a collection has none of its own. -/
def shown (tag : Tag) (value : Bytes) : Bytes :=
  match tag with
  | .seq | .map => value
  | _ => Bytes.ofString " `" ++ excerpt value ++ Bytes.ofString "`"

/-- The wording of a misfit. -/
def Misfit.message : Misfit → Bytes
  | wrongKind line tag value wanted =>
    Bytes.ofString ("line " ++ toString line ++ ": cannot unmarshal ") ++ tag.name ++
      shown tag value ++ Bytes.ofString (" into " ++ wanted.name)
  | unknownField line name shape =>
    Bytes.ofString ("line " ++ toString line ++ ": field ") ++ name ++
      Bytes.ofString (" not found in type " ++ shape.name)
  | fieldSetTwice line name shape =>
    Bytes.ofString ("line " ++ toString line ++ ": field ") ++ name ++
      Bytes.ofString (" already set in type " ++ shape.name)
  | repeatedKey line key first =>
    Bytes.ofString ("line " ++ toString line ++ ": mapping key " ++ Text.quoted key ++
      " already defined at line " ++ toString first)

/-- Why a catalog file cannot be used. -/
inductive Error where
  | yaml (e : Yaml.Error)
  | misfits (ms : List Misfit)
  | duplicate (e : DuplicateId)
  deriving DecidableEq, Repr

/-- The wording of an error. -/
def Error.message : Error → Bytes
  | yaml e => Bytes.ofString "catalog: " ++ e.message
  | misfits ms =>
    Bytes.ofString "catalog: yaml: unmarshal errors:" ++
      ms.flatMap fun m => Bytes.ofString "\n  " ++ m.message
  | duplicate e => Bytes.ofString e.message

end TapeDeck.CatalogFile
