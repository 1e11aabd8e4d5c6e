import TapeDeck.Text.Printable
import TapeDeck.Text.Utf8

/-!
# Quoted texts

A byte string between double quotes, on one line and free of unprintable characters: quotes and
backslashes are escaped, control characters have short escapes or two hexadecimal digits, other
unprintable characters four or eight, and bytes that are no character two each.
-/

namespace TapeDeck.Text

/-- A character inside double quotes. -/
def quotedChar (c : Char) : String :=
  if c = '"' then "\\\""
  else if c = '\\' then "\\\\"
  else if isPrintable c then c.toString
  else if c = '\x07' then "\\a"
  else if c = '\x08' then "\\b"
  else if c = '\x0c' then "\\f"
  else if c = '\n' then "\\n"
  else if c = '\x0d' then "\\r"
  else if c = '\t' then "\\t"
  else if c = '\x0b' then "\\v"
  else if c < ' ' ∨ c = '\x7f' then "\\x" ++ hex 2 c.toNat
  else if c.toNat < 0x10000 then "\\u" ++ hex 4 c.toNat
  else "\\U" ++ hex 8 c.toNat

/-- A piece of a byte string inside double quotes. -/
def quotedPiece : Utf8.Piece → String
  | .char c _ => quotedChar c
  | .bad bs => String.join (bs.map fun b => "\\x" ++ hex 2 b.toNat)

/-- A byte string between double quotes. -/
def quoted (bs : Bytes) : String :=
  "\"" ++ String.join ((Utf8.pieces bs).map quotedPiece) ++ "\""

end TapeDeck.Text
