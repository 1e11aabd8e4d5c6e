import TapeDeck.Yaml.Error

/-!
# The characters of a YAML text

A text is UTF-8, or UTF-16 when it starts with a byte order mark that says so. Control characters
other than tabs and line breaks are refused.

A text is decoded in blocks of 512 bytes, and only as far as it is needed: a problem in a block
counts from the moment on that the block is asked for, and then it hides the whole block. `blocks`
gives all blocks up to the first with a problem.
-/

namespace TapeDeck.Yaml

/-- Characters that a text may hold. -/
def isAllowed (n : Nat) : Bool :=
  n = 0x09 || n = 0x0A || n = 0x0D || (0x20 ≤ n && n ≤ 0x7E) || n = 0x85 ||
    (0xA0 ≤ n && n ≤ 0xD7FF) || (0xE000 ≤ n && n ≤ 0xFFFD) || (0x10000 ≤ n && n ≤ 0x10FFFF)

/-- Why decoding stops before the end of the bytes. -/
inductive Stop where
  /-- The bytes end within a character. -/
  | cut (p : Problem)
  | bad (p : Problem)

/-- A code point as a character, if a text may hold it. -/
def allowed? (n : Nat) : Except Stop Char :=
  if isAllowed n then .ok (Char.ofNat n) else .error (.bad .controlCharacter)

/-! ## UTF-8 -/

/-- How many bytes a sequence has that starts with this one, and the bits it holds itself. -/
def octetWidth (b : UInt8) : Option (Nat × Nat) :=
  if b < 0x80 then some (1, b.toNat)
  else if 0xC0 ≤ b ∧ b < 0xE0 then some (2, b.toNat % 32)
  else if 0xE0 ≤ b ∧ b < 0xF0 then some (3, b.toNat % 16)
  else if 0xF0 ≤ b ∧ b < 0xF8 then some (4, b.toNat % 8)
  else none

/-- Whether a byte goes on with a sequence. -/
def isContinuation (b : UInt8) : Bool := 0x80 ≤ b && b < 0xC0

/-- Add the bits of continuation bytes. -/
def continueBits (bits : Nat) : Bytes → Except Stop Nat
  | [] => .ok bits
  | b :: rest =>
    if isContinuation b then continueBits (bits * 64 + b.toNat % 64) rest
    else .error (.bad .trailingOctet)

/-- The least code point that needs a sequence of this width. -/
def leastOfWidth : Nat → Nat
  | 2 => 0x80
  | 3 => 0x800
  | 4 => 0x10000
  | _ => 0

/-- The character that a sequence of bytes starts with, and its width. -/
def utf8Front (b : UInt8) (rest : Bytes) : Except Stop (Char × Nat) := do
  let some (width, bits) := octetWidth b | throw (.bad .leadingOctet)
  let tail := rest.take (width - 1)
  if tail.length < width - 1 then throw (.cut .incompleteOctets)
  let n ← continueBits bits tail
  if n < leastOfWidth width then throw (.bad .overlongOctets)
  if (0xD800 ≤ n ∧ n ≤ 0xDFFF) ∨ n > 0x10FFFF then throw (.bad .invalidCharacter)
  return (← allowed? n, width)

/-! ## UTF-16 -/

/-- The number that two bytes make up. -/
def unit (big : Bool) (a b : UInt8) : Nat :=
  if big then a.toNat * 256 + b.toNat else b.toNat * 256 + a.toNat

/-- The character that two-byte units start with, and its width in bytes. -/
def utf16Front (big : Bool) (text : Bytes) : Except Stop (Char × Nat) :=
  match text with
  | a :: b :: rest =>
    let u := unit big a b
    if 0xDC00 ≤ u ∧ u ≤ 0xDFFF then .error (.bad .unexpectedLowSurrogate)
    else if 0xD800 ≤ u ∧ u ≤ 0xDBFF then
      match rest with
      | c :: d :: _ =>
        let v := unit big c d
        if 0xDC00 ≤ v ∧ v ≤ 0xDFFF then do
          return (← allowed? (0x10000 + (u % 0x400) * 0x400 + v % 0x400), 4)
        else .error (.bad .expectedLowSurrogate)
      | _ => .error (.cut .incompletePair)
    else do
      return (← allowed? u, 2)
  | _ => .error (.cut .incompleteUnit)

/-! ## Blocks -/

/-- How the characters of a text are written. -/
inductive Form where
  | utf8
  | utf16 (big : Bool)

/-- The character that a text starts with, and its width in bytes. -/
def Form.front (form : Form) (b : UInt8) (rest : Bytes) : Except Stop (Char × Nat) :=
  match form with
  | .utf8 => utf8Front b rest
  | .utf16 big => utf16Front big (b :: rest)

/-- Characters that are decoded in one go, and the problem that ended them. -/
structure Block where
  chars : List Char
  fault : Option Problem

/-- The characters at the front of some bytes, the bytes from where decoding stopped, and why it
stopped before their end. -/
def Form.decode (form : Form) : Nat → Bytes → List Char × Bytes × Option Stop
  | 0, text => ([], text, none)
  | _ + 1, [] => ([], [], none)
  | rounds + 1, b :: rest =>
    match form.front b rest with
    | .ok (c, width) =>
      let (chars, left, stop) := form.decode rounds (rest.drop (width - 1))
      (c :: chars, left, stop)
    | .error stop => ([], b :: rest, some stop)

/-- How many bytes are decoded in one go. -/
def blockSize : Nat := 512

/-- The blocks of some bytes, of which the first has `size` bytes. A character that is cut off by
the end of a block belongs to the next one. -/
def Form.blocks (form : Form) : Nat → Nat → Bytes → List Block
  | 0, _, _ => []
  | _ + 1, _, [] => []
  | rounds + 1, size, text =>
    let (chars, left, stop) := form.decode size (text.take size)
    let rest := text.drop size
    match stop with
    | some (.bad p) => [⟨chars, some p⟩]
    | some (.cut p) =>
      if rest.isEmpty then [⟨chars, none⟩, ⟨[], some p⟩]
      else ⟨chars, none⟩ :: form.blocks rounds blockSize (left ++ rest)
    | none => ⟨chars, none⟩ :: form.blocks rounds blockSize rest

/-- The blocks of a text, in the form that its byte order mark says, or in UTF-8. -/
def blocks (text : Bytes) : List Block :=
  let rounds := text.length + 1
  match text with
  | 0xFF :: 0xFE :: rest => (Form.utf16 false).blocks rounds (blockSize - 2) rest
  | 0xFE :: 0xFF :: rest => (Form.utf16 true).blocks rounds (blockSize - 2) rest
  | 0xEF :: 0xBB :: 0xBF :: rest => Form.utf8.blocks rounds (blockSize - 3) rest
  | _ => Form.utf8.blocks rounds blockSize text

end TapeDeck.Yaml
