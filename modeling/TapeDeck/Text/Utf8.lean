import TapeDeck.Text.Bytes

/-!
# Reading UTF-8

A byte string is cut into pieces: characters in UTF-8, and *maximal parts* of ill-formed ones,
that is, the longest run of bytes that still begins some character, or one byte that begins none.
The reader takes one byte at a time and keeps the character it has begun, so reading more bytes
never changes a piece that is already complete.

Main statement: the pieces of a byte string, put together again, are the byte string
(`flatMap_bytes_pieces`).
-/

namespace TapeDeck.Utf8

/-- A stretch of a byte string: a character, or bytes that are none. -/
inductive Piece where
  | char (c : Char) (bytes : Bytes)
  | bad (bytes : Bytes)
  deriving DecidableEq, Repr

/-- The bytes that a piece was read from. -/
def Piece.bytes : Piece → Bytes
  | char _ bs => bs
  | bad bs => bs

/-- A character that has been begun. -/
structure Pending where
  /-- The bytes so far. -/
  seen : Bytes
  /-- How many more bytes are owed after the next one. -/
  owed : Nat
  /-- The least value of the next byte. -/
  low : UInt8
  /-- The greatest value of the next byte. -/
  high : UInt8
  /-- The bits of the code point so far. -/
  bits : Nat
  deriving DecidableEq, Repr

/-- What a byte begins when no character is pending. Overlong forms, surrogates and values above
the last code point are excluded by the range of the second byte. -/
def begin (b : UInt8) : Piece ⊕ Pending :=
  if b ≤ 0x7F then .inl (.char (byteChar b) [b])
  else if 0xC2 ≤ b ∧ b ≤ 0xDF then .inr ⟨[b], 0, 0x80, 0xBF, b.toNat % 32⟩
  else if b = 0xE0 then .inr ⟨[b], 1, 0xA0, 0xBF, b.toNat % 16⟩
  else if b = 0xED then .inr ⟨[b], 1, 0x80, 0x9F, b.toNat % 16⟩
  else if 0xE1 ≤ b ∧ b ≤ 0xEF then .inr ⟨[b], 1, 0x80, 0xBF, b.toNat % 16⟩
  else if b = 0xF0 then .inr ⟨[b], 2, 0x90, 0xBF, b.toNat % 8⟩
  else if 0xF1 ≤ b ∧ b ≤ 0xF3 then .inr ⟨[b], 2, 0x80, 0xBF, b.toNat % 8⟩
  else if b = 0xF4 then .inr ⟨[b], 2, 0x80, 0x8F, b.toNat % 8⟩
  else .inl (.bad [b])

theorem bytes_begin (b : UInt8) : (begin b).elim Piece.bytes Pending.seen = [b] := by
  unfold begin
  repeat' split
  all_goals rfl

/-- The bits of a character after one more byte. -/
def Pending.bitsAfter (p : Pending) (b : UInt8) : Nat :=
  p.bits * 64 + b.toNat % 64

/-- A reader: the pieces that are complete, and the character that is not. -/
structure Reader where
  done : Array Piece
  pending : Option Pending

namespace Reader

/-- A reader before the first byte. -/
def empty : Reader := ⟨#[], none⟩

/-- Read a byte when no character is pending. -/
def first (done : Array Piece) (b : UInt8) : Reader :=
  match begin b with
  | .inl piece => ⟨done.push piece, none⟩
  | .inr p => ⟨done, some p⟩

/-- Read a byte. One that the pending character cannot hold ends it and is read afresh. -/
def feed (r : Reader) (b : UInt8) : Reader :=
  match r.pending with
  | none => first r.done b
  | some p =>
    if p.low ≤ b ∧ b ≤ p.high then
      match p.owed with
      | 0 => ⟨r.done.push (.char (Char.ofNat (p.bitsAfter b)) (p.seen ++ [b])), none⟩
      | owed + 1 => ⟨r.done, some ⟨p.seen ++ [b], owed, 0x80, 0xBF, p.bitsAfter b⟩⟩
    else
      first (r.done.push (.bad p.seen)) b

/-- The pieces read, a pending character counting as ill-formed. -/
def pieces (r : Reader) : List Piece :=
  r.done.toList ++ (r.pending.map fun p => .bad p.seen).toList

/-- The bytes read. -/
def bytes (r : Reader) : Bytes :=
  r.pieces.flatMap Piece.bytes

theorem bytes_first (done : Array Piece) (b : UInt8) :
    (first done b).bytes = done.toList.flatMap Piece.bytes ++ [b] := by
  have h := bytes_begin b
  unfold first
  split <;> simp_all [bytes, pieces, Piece.bytes]

theorem bytes_feed (r : Reader) (b : UInt8) : (r.feed b).bytes = r.bytes ++ [b] := by
  unfold feed
  split
  · rename_i h
    rw [bytes_first]
    simp [bytes, pieces, h]
  · rename_i p h
    split
    · split <;> simp [bytes, pieces, Piece.bytes, h]
    · rw [bytes_first]
      simp [bytes, pieces, Piece.bytes, h]

theorem bytes_foldl_feed (bs : Bytes) (r : Reader) :
    (bs.foldl feed r).bytes = r.bytes ++ bs := by
  induction bs generalizing r with
  | nil => simp
  | cons b rest ih => simp [ih, bytes_feed]

end Reader

/-- A byte string cut into pieces. -/
def pieces (bs : Bytes) : List Piece :=
  (bs.foldl Reader.feed Reader.empty).pieces

theorem flatMap_bytes_pieces (bs : Bytes) : (pieces bs).flatMap Piece.bytes = bs := by
  have h := Reader.bytes_foldl_feed bs Reader.empty
  simpa [Reader.bytes, Reader.empty, Reader.pieces, pieces] using h

/-- The character that stands for bytes that are none. -/
def replacement : Char := Char.ofNat 0xFFFD

/-- How a piece is shown. -/
def Piece.shown : Piece → Char
  | char c _ => c
  | bad _ => replacement

/-- A byte string as characters, each ill-formed part as one replacement character. -/
def decode (bs : Bytes) : List Char :=
  (pieces bs).map Piece.shown

/-- Characters as UTF-8. -/
def encode (cs : List Char) : Bytes :=
  cs.flatMap String.utf8EncodeChar

end TapeDeck.Utf8
