import TapeDeck.Program.Command

/-!
# Bracket partners

Two ways to find the partner of a bracket. The scans `closeOf?` and `openOf?` walk away from one
bracket and count the nesting; the machine uses them at the moment it needs to jump. The table
`partners` finds all pairs in one pass with a stack of the brackets still open; it is what a
listing prints and a screen highlights. A closing bracket with nothing open is skipped, and an
opening bracket never closed stays without a partner.
-/

namespace TapeDeck

/-! ## Scans -/

/-- The first closing bracket from position `i` on that is not closed off by `depth` earlier
opening ones. -/
def findClose (code : Code) (depth i : Nat) : Option Nat :=
  if h : i < code.size then
    if code[i] = openByte then
      findClose code (depth + 1) (i + 1)
    else if code[i] = closeByte then
      match depth with
      | 0 => some i
      | d + 1 => findClose code d (i + 1)
    else
      findClose code depth (i + 1)
  else
    none
termination_by code.size - i

/-- The last opening bracket below position `i` that is not closed off by `depth` later closing
ones. -/
def findOpen (code : Code) (depth : Nat) : Nat → Option Nat
  | 0 => none
  | i + 1 =>
    if code[i]? = some closeByte then
      findOpen code (depth + 1) i
    else if code[i]? = some openByte then
      match depth with
      | 0 => some i
      | d + 1 => findOpen code d i
    else
      findOpen code depth i

/-- The partner of an opening bracket at `i`. -/
def closeOf? (code : Code) (i : Nat) : Option Nat :=
  findClose code 0 (i + 1)

/-- The partner of a closing bracket at `i`. -/
def openOf? (code : Code) (i : Nat) : Option Nat :=
  findOpen code 0 i

/-! ## The table of all pairs -/

/-- The partner of each position, `none` where there is none. -/
abbrev PartnerTable := Array (Option Nat)

/-- Enter the pair `i`, `j` from both ends. -/
def PartnerTable.pair (t : PartnerTable) (i j : Nat) : PartnerTable :=
  (t.setIfInBounds i (some j)).setIfInBounds j (some i)

/-- One pass over the bytes from position `i` on, with the positions still open, innermost
first. -/
def matchBrackets : Bytes → Nat → List Nat → PartnerTable → PartnerTable
  | [], _, _, t => t
  | b :: rest, i, stack, t =>
    if b = openByte then
      matchBrackets rest (i + 1) (i :: stack) t
    else if b = closeByte then
      match stack with
      | [] => matchBrackets rest (i + 1) [] t
      | o :: stack => matchBrackets rest (i + 1) stack (t.pair o i)
    else
      matchBrackets rest (i + 1) stack t

/-- The bracket partners of a program. -/
def partners (source : Bytes) : PartnerTable :=
  matchBrackets source 0 [] (Array.replicate source.length none)

/-- The partner of a position, if it has one. -/
def PartnerTable.partner? (t : PartnerTable) (i : Nat) : Option Nat :=
  t[i]?.join

end TapeDeck
