import TapeDeck.Text.Utf8
import Mathlib.Tactic.NormNum

/-!
# The bytes of a character

UTF-8 writes a character as a lead byte and so many further bytes of six bits each. `leadOf` gives
the lead byte of a code point, `owedBy` how many bytes follow it, and `tail` what they are, so the
bytes of a character are a lead and a tail (`utf8EncodeChar_eq`).

A lead says which bytes it is the lead of, and is never a byte that goes on a character. What
follows a beginning of a character is a tail of its code point (`eq_tail_of_append`). No
character's bytes begin those of another (`encodeChar_append_inj`).
-/

namespace TapeDeck.Utf8

/-- A byte that can only go on a character. -/
def Continues (b : UInt8) : Prop :=
  0x80 ≤ b ∧ b ≤ 0xBF

/-- The lead byte of a code point. -/
def leadOf (v : Nat) : Nat :=
  if v < 0x80 then v
  else if v < 0x800 then 0xC0 + v / 64
  else if v < 0x10000 then 0xE0 + v / 64 ^ 2
  else 0xF0 + v / 64 ^ 3

/-- How many bytes a code point has after its lead. -/
def owedBy (v : Nat) : Nat :=
  if v < 0x80 then 0 else if v < 0x800 then 1 else if v < 0x10000 then 2 else 3

/-- The last `k` bytes of a code point, six bits each. -/
def tail : Nat → Nat → Bytes
  | 0, _ => []
  | k + 1, v => UInt8.ofNat (0x80 + v / 64 ^ k % 64) :: tail k v

theorem length_tail (k v : Nat) : (tail k v).length = k := by
  induction k with
  | zero => rfl
  | succ k ih => rw [tail, List.length_cons, ih]

theorem toNat_digit (n : Nat) : (UInt8.ofNat (0x80 + n % 64)).toNat = 0x80 + n % 64 := by
  rw [UInt8.toNat_ofNat']
  omega

theorem continues_iff {b : UInt8} : Continues b ↔ 0x80 ≤ b.toNat ∧ b.toNat ≤ 0xBF := by
  rw [Continues, UInt8.le_iff_toNat_le, UInt8.le_iff_toNat_le]
  rfl

theorem continues_of_mem_tail {k v : Nat} {b : UInt8} (h : b ∈ tail k v) : Continues b := by
  induction k with
  | zero => exact absurd h List.not_mem_nil
  | succ k ih =>
    obtain rfl | h := List.mem_cons.mp h
    · rw [continues_iff, toNat_digit]
      omega
    · exact ih h

/-- The end of a tail is a tail. -/
theorem tail_eq_append {k v : Nat} {s r : Bytes} (h : tail k v = s ++ r) : r = tail r.length v := by
  induction s generalizing k with
  | nil =>
    have hlength := congrArg List.length h
    rw [length_tail, List.nil_append] at hlength
    rw [← hlength, h, List.nil_append]
  | cons b s ih =>
    cases k with
    | zero => exact absurd h nofun
    | succ k => exact ih (List.cons.inj h).2

theorem toNat_lt (c : Char) : c.toNat < 0x110000 := by
  obtain h | h := c.valid
  · exact Nat.lt_trans h (by decide)
  · exact h.2

theorem toNat_ofNat {v : Nat} (h : v.isValidChar) : (Char.ofNat v).toNat = v := by
  rw [Char.ofNat, dif_pos h]
  rfl

theorem toNat_byteChar (b : UInt8) : (byteChar b).toNat = b.toNat :=
  toNat_ofNat (.inl (Nat.lt_trans b.toNat_lt (by decide)))

theorem leadOf_lt {v : Nat} (h : v < 0x110000) : leadOf v < 256 := by
  unfold leadOf
  split_ifs <;> omega

/-- **The bytes of a character** are its lead and its tail. -/
theorem utf8EncodeChar_eq (c : Char) :
    String.utf8EncodeChar c = UInt8.ofNat (leadOf c.toNat) :: tail (owedBy c.toNat) c.toNat := by
  have hlt := toNat_lt c
  have hval : c.val.toNat = c.toNat := rfl
  unfold String.utf8EncodeChar leadOf owedBy
  simp only [hval, ← Nat.lt_succ_iff]
  generalize c.toNat = v at hlt
  split_ifs
  all_goals
    simp only [tail, List.cons.injEq, and_true, Nat.reducePow, Nat.div_one, pow_zero, pow_one]
    and_intros
    all_goals
      congr 1
      omega

theorem toNat_lead (c : Char) : (UInt8.ofNat (leadOf c.toNat)).toNat = leadOf c.toNat := by
  rw [UInt8.toNat_ofNat', Nat.mod_eq_of_lt (leadOf_lt (toNat_lt c))]

theorem singleton_isPrefix_iff {b : UInt8} {c : Char} :
    [b] <+: String.utf8EncodeChar c ↔ leadOf c.toNat = b.toNat := by
  rw [utf8EncodeChar_eq, List.cons_prefix_cons, ← UInt8.toNat_inj, toNat_lead]
  simp [eq_comm]

theorem length_encodeChar (c : Char) :
    (String.utf8EncodeChar c).length = owedBy c.toNat + 1 := by
  rw [utf8EncodeChar_eq, List.length_cons, length_tail]

/-- A character begins with a byte that does not go on another one. -/
theorem not_continues_of_isPrefix {b : UInt8} {c : Char} (h : [b] <+: String.utf8EncodeChar c) :
    ¬ Continues b := by
  have hlt := toNat_lt c
  rw [singleton_isPrefix_iff] at h
  rw [continues_iff, ← h]
  unfold leadOf
  split_ifs <;> omega

/-- What follows a beginning of a character is a tail of its code point. -/
theorem eq_tail_of_append {c : Char} {s r : Bytes} (h : String.utf8EncodeChar c = s ++ r)
    (hs : s ≠ []) : r = tail r.length c.toNat := by
  obtain ⟨b, s, rfl⟩ := List.exists_cons_of_ne_nil hs
  rw [utf8EncodeChar_eq, List.cons_append] at h
  exact tail_eq_append (List.cons.inj h).2

/-- The bytes after the first one go on the character. -/
theorem continues_of_append_isPrefix {s : Bytes} {b : UInt8} {c : Char} (hs : s ≠ [])
    (h : s ++ [b] <+: String.utf8EncodeChar c) : Continues b := by
  obtain ⟨r, hr⟩ := h
  rw [List.append_assoc] at hr
  have hmem : b ∈ [b] ++ r := List.mem_cons_self
  rw [eq_tail_of_append hr.symm hs] at hmem
  exact continues_of_mem_tail hmem

/-- No character's bytes begin those of another. -/
theorem encodeChar_append_inj {c d : Char} {r r' : Bytes}
    (h : String.utf8EncodeChar c ++ r = String.utf8EncodeChar d ++ r') : c = d ∧ r = r' := by
  have hchar : c = d := by
    have hc := @ByteArray.utf8DecodeChar?_utf8EncodeChar_append r.toByteArray c
    have hd := @ByteArray.utf8DecodeChar?_utf8EncodeChar_append r'.toByteArray d
    rw [← List.toByteArray_append, h, List.toByteArray_append] at hc
    exact Option.some.inj (hc.symm.trans hd)
  subst hchar
  exact ⟨rfl, List.append_cancel_left h⟩

end TapeDeck.Utf8
