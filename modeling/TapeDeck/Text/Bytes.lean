/-!
# Byte strings and fixed-width columns

Program sources, file contents, arguments and messages are strings of raw bytes: nothing promises
that they are valid UTF-8. `Bytes.ofString` is the UTF-8 form of a text, and it is additive
(`ofString_append`).

Numbers in reports stand in columns: `alignRight` pads on the left and never cuts, so a number
wider than its column is still whole (`length_alignRight`).
-/

namespace TapeDeck

/-- A string of raw bytes. -/
abbrev Bytes := List UInt8

/-- The UTF-8 bytes of a text. -/
def Bytes.ofString (s : String) : Bytes :=
  s.toList.flatMap String.utf8EncodeChar

theorem Bytes.ofString_append (s t : String) :
    Bytes.ofString (s ++ t) = Bytes.ofString s ++ Bytes.ofString t := by
  simp [Bytes.ofString]

/-- The character of a byte read as a code point below 256. -/
def byteChar (b : UInt8) : Char :=
  Char.ofNat b.toNat

namespace Text

/-- Pad `s` with spaces on the left up to `width` characters. -/
def alignRight (width : Nat) (s : String) : String :=
  String.ofList (s.toList.leftpad width ' ')

theorem length_alignRight (width : Nat) (s : String) :
    (alignRight width s).length = max width s.length := by
  simp only [alignRight, String.length_ofList, List.length_leftpad, String.length_toList]

/-- A number in a column of `width` characters. -/
def column (width n : Nat) : String :=
  alignRight width (toString n)

/-- A signed number in a column of `width` characters. -/
def columnInt (width : Nat) (n : Int) : String :=
  alignRight width (toString n)

/-- The lower-case hexadecimal digit of a value below 16. -/
def hexDigit (n : Nat) : Char :=
  if n < 10 then Char.ofNat ('0'.toNat + n) else Char.ofNat ('a'.toNat + (n - 10))

/-- The last `width` hexadecimal digits of a number, most significant first. -/
def hexDigits : Nat → Nat → List Char
  | 0, _ => []
  | width + 1, n => hexDigits width (n / 16) ++ [hexDigit (n % 16)]

/-- A number as exactly `width` lower-case hexadecimal digits. -/
def hex (width n : Nat) : String :=
  String.ofList (hexDigits width n)

theorem length_hexDigits (width n : Nat) : (hexDigits width n).length = width := by
  induction width generalizing n with
  | zero => rfl
  | succ w ih => simp [hexDigits, ih]

end Text

end TapeDeck
