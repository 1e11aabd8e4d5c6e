import TapeDeck.Text.CodePage
import TapeDeck.Text.Quoted

/-!
# Output encodings

A program outputs bytes; an encoding says how they are shown. The whole output is read at once, so
that a character of several bytes reads as one as soon as all of them are there.
-/

namespace TapeDeck

/-- How output bytes are shown. -/
inductive Encoding where
  | utf8
  | latin1
  | cp437
  deriving DecidableEq, Repr

/-- A name that is no encoding's. -/
structure UnknownEncoding where
  name : Bytes
  deriving DecidableEq, Repr

/-- The wording of an unknown encoding. -/
def UnknownEncoding.message (e : UnknownEncoding) : String :=
  "unknown output encoding: " ++ Text.quoted e.name

namespace Encoding

/-- The preferred names. -/
def names : List String := ["utf-8", "latin1", "cp437"]

/-- The lower case of a character, where it is ASCII. Besides the ASCII capitals only the dotted
capital I and the Kelvin sign have an ASCII lower case. -/
def lower (c : Char) : Char :=
  if 'A' ≤ c ∧ c ≤ 'Z' then Char.ofNat (c.toNat + 32)
  else if c.toNat = 0x130 then 'i'
  else if c.toNat = 0x212A then 'k'
  else c

/-- The encoding of a lower-case name. No name is UTF-8 too. -/
def ofLower? (name : String) : Option Encoding :=
  match name with
  | "" | "utf-8" | "utf8" => some utf8
  | "latin1" | "iso-8859-1" => some latin1
  | "cp437" | "ibm437" => some cp437
  | _ => none

/-- The encoding of a name, in any case. -/
def ofName? (name : Bytes) : Except UnknownEncoding Encoding :=
  match ofLower? (String.ofList ((Utf8.decode name).map lower)) with
  | some e => .ok e
  | none => .error ⟨name⟩

/-- Output bytes as characters. -/
def chars : Encoding → Bytes → List Char
  | utf8, bs => Utf8.decode bs
  | latin1, bs => bs.map Text.latin1Char
  | cp437, bs => bs.map Text.cp437Char

/-- Output bytes as text. -/
def decode (e : Encoding) (bs : Bytes) : String :=
  String.ofList (e.chars bs)

end Encoding

end TapeDeck
