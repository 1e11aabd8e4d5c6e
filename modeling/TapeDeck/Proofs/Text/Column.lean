import TapeDeck.Text.Bytes
import TapeDeck.Text.Numeral
import Mathlib.Algebra.Group.Nat.Defs

/-!
# Reading columns back

Reports show numbers in columns: in decimal with spaces in front, or as a fixed number of
hexadecimal digits. The readers here know these two notations and nothing of what pads or cuts.
A number in a column comes back whole whatever its width, provided that what follows it is no
digit (`readColumn?_column`); hexadecimal digits give back as much of a number as they are wide
(`readHex?_hexDigits`). An integer stands in a message as it is, with its sign
(`readInteger?_toString`).

A column of decimal digits has nothing else but spaces (`mem_column`), and one of hexadecimal digits
nothing else at all (`mem_hexDigits`), so what is neither can only stand elsewhere in a report.
-/

namespace TapeDeck

/-- The byte with a value. -/
def byteOf? (n : Nat) : Option UInt8 :=
  if n < 256 then some (UInt8.ofNat n) else none

theorem byteOf?_toNat (b : UInt8) : byteOf? b.toNat = some b := by
  rw [byteOf?, if_pos b.toNat_lt, UInt8.ofNat_toNat]

namespace Text

/-! ## Readers -/

/-- The decimal number that a text begins with, and what follows its digits. -/
def readNumber? (cs : List Char) : Option (Nat × List Char) :=
  match cs.takeWhile Char.isDigit with
  | [] => none
  | digits => some (Nat.ofDigitChars 10 digits 0, cs.dropWhile Char.isDigit)

/-- The decimal number in a column, with spaces in front, and what follows it. -/
def readColumn? (cs : List Char) : Option (Nat × List Char) :=
  readNumber? (cs.dropWhile (· == ' '))

/-- The natural number that a text is, with nothing behind it. -/
def readWhole? (cs : List Char) : Option Nat := do
  let (n, rest) ← readNumber? cs
  guard (rest = [])
  some n

/-- The integer that a text is: a natural number, or one behind a minus. -/
def readInteger? : List Char → Option Int
  | '-' :: cs => (readWhole? cs).map fun n => -(n : Int)
  | cs => (readWhole? cs).map Int.ofNat

/-- The number that hexadecimal digits stand for, most significant first. -/
def readHex? (cs : List Char) : Option Nat :=
  cs.foldlM (fun n c => (digitValue? c).map (16 * n + ·)) 0

/-- No digit comes next. -/
def NoDigitNext (cs : List Char) : Prop :=
  ∀ c ∈ cs.head?, c.isDigit = false

theorem noDigitNext_nil : NoDigitNext [] := nofun

theorem noDigitNext_cons {c : Char} (h : c.isDigit = false) (rest : List Char) :
    NoDigitNext (c :: rest) := by
  rintro _ ⟨⟩
  exact h

/-! ## Decimal numbers -/

theorem isDigit_of_mem_toDigits {n : Nat} {c : Char} (h : c ∈ Nat.toDigits 10 n) :
    c.isDigit = true :=
  Nat.isDigit_of_mem_toDigits (by decide) (by decide) h

theorem notMem_toDigits {c : Char} (hc : c.isDigit = false) (n : Nat) :
    c ∉ Nat.toDigits 10 n := by
  intro h
  rw [isDigit_of_mem_toDigits h] at hc
  cases hc

theorem newline_notMem_toDigits (n : Nat) : '\n' ∉ Nat.toDigits 10 n :=
  notMem_toDigits rfl n

/-- Up to the first character that is no digit a text is one number. -/
theorem readNumber?_toDigits (n : Nat) {rest : List Char} (h : NoDigitNext rest) :
    readNumber? (Nat.toDigits 10 n ++ rest) = some (n, rest) := by
  have hdigits : ∀ c ∈ Nat.toDigits 10 n, c.isDigit = true := fun _ => isDigit_of_mem_toDigits
  have hrest : rest.takeWhile Char.isDigit = [] ∧ rest.dropWhile Char.isDigit = rest := by
    cases rest with
    | nil => simp
    | cons c rest => simp [h c rfl]
  have hne : Nat.toDigits 10 n ≠ [] := Nat.toDigits_ne_nil
  unfold readNumber?
  rw [List.takeWhile_append_of_pos hdigits, List.dropWhile_append_of_pos hdigits, hrest.1,
    hrest.2, List.append_nil]
  split
  · contradiction
  · rw [Nat.ofDigitChars_ten_toDigits]

/-- Digits with nothing behind them are one number. -/
theorem readNumber?_toDigits_nil (n : Nat) : readNumber? (Nat.toDigits 10 n) = some (n, []) := by
  have h := readNumber?_toDigits n noDigitNext_nil
  rwa [List.append_nil] at h

theorem readWhole?_toDigits (n : Nat) : readWhole? (Nat.toDigits 10 n) = some n := by
  rw [readWhole?, readNumber?_toDigits_nil]
  rfl

/-- **An integer comes back from its text.** -/
theorem readInteger?_toString (k : Int) : readInteger? (toString k).toList = some k := by
  cases k with
  | ofNat n =>
    have htext : (toString (Int.ofNat n)).toList = Nat.toDigits 10 n := by
      show n.repr.toList = _
      simp
    -- the first digit is no minus
    have hsign : ∀ cs, Nat.toDigits 10 n ≠ '-' :: cs := by
      intro cs hcs
      exact notMem_toDigits rfl n (hcs ▸ List.mem_cons_self)
    rw [htext]
    unfold readInteger?
    split
    · next cs hcs => exact absurd hcs (hsign cs)
    · rw [readWhole?_toDigits]; rfl
  | negSucc n =>
    have htext : (toString (Int.negSucc n)).toList = '-' :: Nat.toDigits 10 (n + 1) := by
      show ("-" ++ (n + 1).repr).toList = _
      simp
    rw [htext, readInteger?, readWhole?_toDigits]
    rfl

/-! ## Columns -/

theorem toList_column (width n : Nat) :
    (column width n).toList =
      List.replicate (width - (Nat.toDigits 10 n).length) ' ' ++ Nat.toDigits 10 n := by
  have hdigits : (toString n).toList = Nat.toDigits 10 n := by simp
  rw [column, alignRight, String.toList_ofList, List.leftpad, hdigits]

/-- A column is made of spaces and digits. -/
theorem mem_column {width n : Nat} {c : Char} (h : c ∈ (column width n).toList) :
    c = ' ' ∨ c.isDigit = true := by
  rw [toList_column, List.mem_append] at h
  rcases h with h | h
  · exact .inl (List.eq_of_mem_replicate h)
  · exact .inr (isDigit_of_mem_toDigits h)

theorem newline_notMem_column (width n : Nat) : '\n' ∉ (column width n).toList := by
  intro h
  rcases mem_column h with h | h
  · cases h
  · exact absurd h (by decide)

/-- **A number in a column comes back whole**, also one that is wider than the column. -/
theorem readColumn?_column (width n : Nat) {rest : List Char} (h : NoDigitNext rest) :
    readColumn? ((column width n).toList ++ rest) = some (n, rest) := by
  have hspaces :
      ∀ c ∈ List.replicate (width - (Nat.toDigits 10 n).length) ' ', (c == ' ') = true := by
    intro c hc
    rw [List.eq_of_mem_replicate hc]
    rfl
  have hnumber : (Nat.toDigits 10 n ++ rest).dropWhile (· == ' ') = Nat.toDigits 10 n ++ rest := by
    obtain ⟨c, cs, hcs⟩ := List.exists_cons_of_ne_nil
      (show Nat.toDigits 10 n ≠ [] from Nat.toDigits_ne_nil)
    have hc : c ≠ ' ' := by
      rintro rfl
      exact notMem_toDigits rfl n (hcs ▸ List.mem_cons_self)
    rw [hcs, List.cons_append, List.dropWhile_cons_of_neg (by simpa using hc)]
  rw [readColumn?, toList_column, List.append_assoc, List.dropWhile_append_of_pos hspaces,
    hnumber, readNumber?_toDigits n h]

/-! ## Hexadecimal digits -/

theorem digitValue?_hexDigit {n : Nat} (h : n < 16) : digitValue? (hexDigit n) = some n := by
  revert n
  decide

/-- **Hexadecimal digits give back as much of a number as they are wide.** -/
theorem readHex?_hexDigits (width n : Nat) :
    readHex? (hexDigits width n) = some (n % 16 ^ width) := by
  induction width generalizing n with
  | zero => simp [hexDigits, readHex?, Nat.mod_one]
  | succ width ih =>
    have hlast : digitValue? (hexDigit (n % 16)) = some (n % 16) :=
      digitValue?_hexDigit (Nat.mod_lt n (by decide))
    have hfirst : readHex? (hexDigits width (n / 16)) = some (n / 16 % 16 ^ width) := ih (n / 16)
    unfold readHex? at hfirst ⊢
    rw [hexDigits, List.foldlM_append, hfirst]
    simp [hlast, Nat.pow_succ', Nat.mod_mul, Nat.add_comm]

/-- A hexadecimal digit is a decimal one or a letter from a to f. -/
theorem mem_hexDigits {width n : Nat} {c : Char} (h : c ∈ hexDigits width n) :
    ∃ d < 16, c = hexDigit d := by
  induction width generalizing n with
  | zero => exact absurd h List.not_mem_nil
  | succ width ih =>
    rw [hexDigits, List.mem_append, List.mem_singleton] at h
    rcases h with h | h
    · exact ih h
    · exact ⟨n % 16, Nat.mod_lt n (by decide), h⟩

end Text

end TapeDeck
