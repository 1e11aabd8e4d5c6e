import TapeDeck.Text.ClusterTable
import TapeDeck.Text.Utf8

/-!
# Clusters

A *cluster* is what a reader takes for one character: a letter with its marks, a Hangul syllable, a
picture put together from several, a flag. It is not split, and it takes a number of terminal cells
of its own.
-/

namespace TapeDeck.Text

/-- What a character does at the edge of a cluster. -/
inductive BreakClass where
  | other
  | return
  | lineFeed
  | control
  | extend
  | joiner
  | spacing
  | prepend
  /-- The parts of Hangul syllables, and whole syllables without and with a last consonant. -/
  | leading
  | vowel
  | trailing
  | openSyllable
  | closedSyllable
  | pictograph
  | regional
  deriving DecidableEq, Repr

/-- The class of a character. -/
def BreakClass.of (c : Char) : BreakClass :=
  let n := c.toNat
  if 0x20 ≤ n ∧ n < 0x7F then other
  else if c = '\n' then lineFeed
  else if c = '\r' then .return
  else if n = 0x200D then joiner
  else if 0x1F1E6 ≤ n ∧ n ≤ 0x1F1FF then regional
  else if (0x1100 ≤ n ∧ n ≤ 0x115F) ∨ (0xA960 ≤ n ∧ n ≤ 0xA97C) then leading
  else if (0x1160 ≤ n ∧ n ≤ 0x11A7) ∨ (0xD7B0 ≤ n ∧ n ≤ 0xD7C6) then vowel
  else if (0x11A8 ≤ n ∧ n ≤ 0x11FF) ∨ (0xD7CB ≤ n ∧ n ≤ 0xD7FB) then trailing
  else if 0xAC00 ≤ n ∧ n ≤ 0xD7A3 then
    if (n - 0xAC00) % 28 = 0 then openSyllable else closedSyllable
  else if inTable controlRanges n then control
  else if inTable extendRanges n then extend
  else if inTable spacingRanges n then spacing
  else if inTable prependRanges n then prepend
  else if inTable pictographRanges n then pictograph
  else other

/-- The number of cells of a character of a class by itself. -/
def charCells (c : Char) : BreakClass → Nat
  | .control | .return | .lineFeed | .extend | .joiner => 0
  | .regional => 2
  | .pictograph => if inTable emojiRanges c.toNat then 2 else 1
  | _ =>
    if c.toNat = 0x2E3A then 3
    else if c.toNat = 0x2E3B then 4
    else if inTable wideRanges c.toNat then 2
    else 1

/-- What the characters of a cluster so far allow to follow. -/
inductive ClusterState where
  | other
  | return
  | control
  | leading
  | vowel
  | trailing
  | prepend
  | pictograph
  /-- A pictograph and a joiner. -/
  | joined
  | regional
  deriving DecidableEq, Repr

/-- What a character allows to follow that starts a cluster. -/
def BreakClass.state : BreakClass → ClusterState
  | .return => .return
  | .lineFeed | .control => .control
  | .leading => .leading
  | .vowel | .openSyllable => .vowel
  | .trailing | .closedSyllable => .trailing
  | .prepend => .prepend
  | .pictograph => .pictograph
  | .regional => .regional
  | .other | .extend | .joiner | .spacing => .other

/-- The state after a character that belongs to the cluster; none when it starts another. -/
def ClusterState.join? : ClusterState → BreakClass → Option ClusterState
  | .return, .lineFeed => some .control
  | .return, _ | .control, _ => none
  | .leading, .leading => some .leading
  | .leading, .vowel | .leading, .openSyllable => some .vowel
  | .leading, .closedSyllable => some .trailing
  | .vowel, .vowel => some .vowel
  | .vowel, .trailing | .trailing, .trailing => some .trailing
  | .pictograph, .extend => some .pictograph
  | .pictograph, .joiner => some .joined
  | .joined, .pictograph => some .pictograph
  | .regional, .regional => some .other
  | _, .extend | _, .joiner | _, .spacing => some .other
  | .prepend, .return | .prepend, .lineFeed | .prepend, .control => none
  | .prepend, c => some c.state
  | _, _ => none

/-- A cluster at the start of a byte string: its bytes and cells. -/
structure Cluster where
  size : Nat
  cells : Nat
  deriving DecidableEq, Repr

/-- The character that bytes start with, and its size; a byte that starts none counts as the
replacement character. -/
def frontChar (bs : Bytes) : Char × Nat :=
  match Utf8.pieces (bs.take 4) with
  | .char c read :: _ => (c, read.length)
  | _ => (Utf8.replacement, 1)

/-- The cells of a cluster with one more character: a picture has those of its first character,
unless a selector follows; so have flags and syllables; all else adds up. -/
def joinCells (first : BreakClass) (before : Nat) (c : Char) (cls : BreakClass) : Nat :=
  match first with
  | .pictograph =>
    if c.toNat = 0xFE0E then 1 else if c.toNat = 0xFE0F then 2 else before
  | .regional | .leading => before
  | _ => before + charCells c cls

/-- Add the characters that belong to a cluster. -/
def Cluster.extend (first : BreakClass) : Nat → ClusterState → Bytes → Cluster → Cluster
  | 0, _, _, k => k
  | _ + 1, _, [], k => k
  | rounds + 1, state, rest, k =>
    let (c, size) := frontChar rest
    let cls := BreakClass.of c
    match state.join? cls with
    | none => k
    | some state =>
      Cluster.extend first rounds state (rest.drop size)
        ⟨k.size + size, joinCells first k.cells c cls⟩

/-- The cluster that a byte string of at most `bound` bytes starts with. -/
def Cluster.first (bound : Nat) (bs : Bytes) : Cluster :=
  let (c, size) := frontChar bs
  let cls := BreakClass.of c
  Cluster.extend cls bound cls.state (bs.drop size) ⟨size, charCells c cls⟩

end TapeDeck.Text
