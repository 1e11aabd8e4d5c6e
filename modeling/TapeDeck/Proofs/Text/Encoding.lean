import TapeDeck.Proofs.Text.Utf8
import TapeDeck.Text.Encoding
import Mathlib.Data.List.Nodup

/-!
# Output as it is shown

A program outputs bytes, and what is shown is text, which again is bytes (`Encoding.shown`).

In UTF-8 the output is cut into characters, which are shown as they are, and ill-formed parts, each
shown as one replacement character (`Encoding.shown_of_cut`). So valid output is shown as it is and
no other is (`Encoding.shown_eq_self_iff`). What is shown already changes with later output only at
an unfinished character: output that is apart is shown apart (`Encoding.shown_append`), and any
output falls into a part that is apart from all that follows and an unfinished character or nothing
(`exists_trailing`).

A one-byte code page shows every byte as a character of its own, different ones as different ones
(`Text.latin1Char_injective`, `Text.cp437Char_injective`), and characters can be told from the bytes
of a text (`encode_injective`).

**`utf8_streaming_safe`** and **`one_byte_lossless`** sum this up.
-/

namespace TapeDeck

/-! ## Text -/

/-- The bytes of the text that output bytes are shown as. -/
def Encoding.shown (e : Encoding) (bs : Bytes) : Bytes :=
  Bytes.ofString (e.decode bs)

theorem Encoding.shown_eq (e : Encoding) (bs : Bytes) : e.shown bs = Utf8.encode (e.chars bs) := by
  rw [shown, decode, Bytes.ofString, String.toList_ofList]
  rfl

namespace Utf8

/-- A byte string that is made of characters. -/
def Valid (bs : Bytes) : Prop :=
  ∃ cs, bs = encode cs

/-- Whether a piece is ill-formed. -/
def Piece.isBad : Piece → Bool
  | char _ _ => false
  | bad _ => true

@[simp]
theorem Piece.isBad_char (c : Char) (bs : Bytes) : (char c bs).isBad = false := rfl

@[simp]
theorem Piece.isBad_bad (bs : Bytes) : (bad bs).isBad = true := rfl

/-- The bytes that a piece is shown as: its own, or those of the replacement character. -/
def Piece.text (p : Piece) : Bytes :=
  if p.isBad then [0xEF, 0xBF, 0xBD] else p.bytes

theorem encode_append (cs ds : List Char) : encode (cs ++ ds) = encode cs ++ encode ds :=
  List.flatMap_append

theorem encode_injective : Function.Injective encode := by
  intro cs ds h
  rw [← decode_encode cs, h, decode_encode]

/-! ## Text cut into pieces -/

theorem Cut.flatMap_bytes {bs : Bytes} {ps : List Piece} (h : Cut bs ps) :
    ps.flatMap Piece.bytes = bs := by
  rw [h.unique (cut_pieces bs), flatMap_bytes_pieces]

theorem utf8EncodeChar_replacement : String.utf8EncodeChar replacement = [0xEF, 0xBF, 0xBD] := by
  decide

theorem Cut.encode_shown {bs : Bytes} {ps : List Piece} (h : Cut bs ps) :
    encode (ps.map Piece.shown) = ps.flatMap Piece.text := by
  induction h with
  | nil => rfl
  | char c _ ih =>
    rw [List.flatMap_cons, ← ih]
    rfl
  | bad _ _ ih =>
    rw [List.flatMap_cons, ← ih, Piece.text, if_pos (Piece.isBad_bad _),
      ← utf8EncodeChar_replacement]
    rfl

/-- Each ill-formed part is shown as one replacement character, and the characters as themselves. -/
theorem count_replacement (ps : List Piece) :
    (ps.map Piece.shown).count replacement =
      ((ps.filter (!·.isBad)).map Piece.shown).count replacement + ps.countP Piece.isBad := by
  induction ps with
  | nil => rfl
  | cons p ps ih =>
    cases p with
    | char c bs =>
      rw [List.countP_cons_of_neg (by simp), List.filter_cons_of_pos (by simp), List.map_cons,
        List.map_cons, List.count_cons, List.count_cons, ih]
      omega
    | bad bs =>
      have hshown : (Piece.bad bs).shown = replacement := rfl
      rw [List.countP_cons_of_pos (Piece.isBad_bad bs), List.filter_cons_of_neg (by simp),
        List.map_cons, hshown, List.count_cons_self, ih, Nat.add_assoc]

/-- No more parts are ill-formed than bytes are outside of characters. -/
theorem Cut.countP_isBad_le {bs : Bytes} {ps : List Piece} (h : Cut bs ps) :
    ps.countP Piece.isBad ≤ ((ps.filter Piece.isBad).flatMap Piece.bytes).length := by
  induction h with
  | nil => exact Nat.le_refl 0
  | char c _ ih => simpa using ih
  | bad hs _ ih =>
    have hpos := List.length_pos_iff.mpr hs.ne_nil
    rw [List.countP_cons_of_pos (Piece.isBad_bad _), List.filter_cons_of_pos (Piece.isBad_bad _),
      List.flatMap_cons, List.length_append, Piece.bytes]
    omega

/-- An unfinished character at the end of a byte string, if there is one, and what is before. -/
theorem exists_trailing (x : Bytes) :
    ∃ before s, x = before ++ s ∧ (s = [] ∨ Incomplete s) ∧ ∀ y, Apart before (s ++ y) := by
  by_cases h : ∃ s, s <:+ x ∧ Incomplete s
  · obtain ⟨s, ⟨before, rfl⟩, hs⟩ := h
    obtain ⟨b, r, rfl, hb⟩ := hs.exists_lead
    exact ⟨before, b :: r, rfl, .inr hs, fun y => apart_of_lead before hb (r ++ y)⟩
  · refine ⟨x, [], (List.append_nil x).symm, .inl rfl, fun y => apart_of_complete ?_ y⟩
    intro s hs hi
    exact h ⟨s, hs, hi⟩

end Utf8
open Utf8

namespace Encoding

theorem shown_encode (cs : List Char) : utf8.shown (encode cs) = encode cs := by
  rw [shown_eq, chars, decode_encode]

theorem shown_append {x y : Bytes} (h : Apart x y) :
    utf8.shown (x ++ y) = utf8.shown x ++ utf8.shown y := by
  simp only [shown_eq, chars]
  rw [decode_append h, encode_append]

theorem shown_of_cut {bs : Bytes} {ps : List Piece} (h : Cut bs ps) :
    utf8.shown bs = ps.flatMap Piece.text := by
  rw [shown_eq, chars, decode_of_cut h, h.encode_shown]

theorem shown_incomplete {s : Bytes} (h : Incomplete s) : utf8.shown s = [0xEF, 0xBF, 0xBD] :=
  shown_of_cut h.cut

theorem valid_shown (e : Encoding) (bs : Bytes) : Valid (e.shown bs) :=
  ⟨e.chars bs, e.shown_eq bs⟩

theorem shown_eq_self_iff {bs : Bytes} : utf8.shown bs = bs ↔ Valid bs := by
  constructor
  · intro h
    rw [← h]
    exact valid_shown utf8 bs
  · rintro ⟨cs, rfl⟩
    exact shown_encode cs

/-- A character is shown wherever it stands, and what is before and after it as if it were alone. -/
theorem shown_around (x : Bytes) (c : Char) (y : Bytes) :
    utf8.shown (x ++ String.utf8EncodeChar c ++ y) =
      utf8.shown x ++ String.utf8EncodeChar c ++ utf8.shown y := by
  have hafter : utf8.shown (String.utf8EncodeChar c ++ y) =
      String.utf8EncodeChar c ++ utf8.shown y := by
    rw [shown_of_cut (.char c (cut_pieces y)), shown_of_cut (cut_pieces y)]
    rfl
  have hapart : Apart x (String.utf8EncodeChar c ++ y) := by
    obtain ⟨b, r, hc⟩ := List.exists_cons_of_ne_nil (String.utf8EncodeChar_ne_nil (c := c))
    have hlead : ¬ Continues b := not_continues_of_isPrefix (c := c) ⟨r, hc.symm⟩
    rw [hc]
    exact apart_of_lead x hlead (r ++ y)
  rw [List.append_assoc, shown_append hapart, hafter, List.append_assoc]

end Encoding

/-- **UTF-8 output.** Whatever bytes a program has output, the text they are shown as is valid
UTF-8; it is the output itself exactly when that is valid, so showing it again changes nothing. The
output is cut in one way into characters and maximal ill-formed parts. Each character is shown as it
is, in order, and each ill-formed part as one replacement character; there are no more of them than
bytes outside of characters. A character is shown wherever it stands. Unless the output ends in an
unfinished character, what is output later is shown after it as if it came alone, and in any case
only an unfinished character at the end can be shown in another way later. -/
theorem utf8_streaming_safe (a : Bytes) :
    Valid (Encoding.utf8.shown a) ∧
    (Encoding.utf8.shown a = a ↔ Valid a) ∧
    Encoding.utf8.shown (Encoding.utf8.shown a) = Encoding.utf8.shown a ∧
    (∃! ps, Cut a ps) ∧
    (∀ ps, Cut a ps → ps.flatMap Piece.bytes = a ∧
      Encoding.utf8.shown a =
        ps.flatMap (fun p => if p.isBad then [0xEF, 0xBF, 0xBD] else p.bytes) ∧
      (Encoding.utf8.chars a).count replacement =
        ((ps.filter (!·.isBad)).map Piece.shown).count replacement + ps.countP Piece.isBad ∧
      ps.countP Piece.isBad ≤ ((ps.filter Piece.isBad).flatMap Piece.bytes).length) ∧
    (∀ x c y, a = x ++ String.utf8EncodeChar c ++ y →
      Encoding.utf8.shown a =
        Encoding.utf8.shown x ++ String.utf8EncodeChar c ++ Encoding.utf8.shown y) ∧
    ((∀ s, s <:+ a → ¬ Incomplete s) → ∀ b,
      Encoding.utf8.shown (a ++ b) = Encoding.utf8.shown a ++ Encoding.utf8.shown b) ∧
    ∃ x s, a = x ++ s ∧ (s = [] ∨ Incomplete s) ∧
      Encoding.utf8.shown a =
        Encoding.utf8.shown x ++ (if s = [] then [] else [0xEF, 0xBF, 0xBD]) ∧
      ∀ b, Encoding.utf8.shown (a ++ b) =
        Encoding.utf8.shown x ++ Encoding.utf8.shown (s ++ b) := by
  refine ⟨Encoding.valid_shown _ a, Encoding.shown_eq_self_iff,
    Encoding.shown_eq_self_iff.mpr (Encoding.valid_shown _ a),
    ⟨pieces a, cut_pieces a, fun ps h => h.unique (cut_pieces a)⟩, fun ps h => ?_, ?_,
    fun h b => Encoding.shown_append (apart_of_complete h b), ?_⟩
  · refine ⟨h.flatMap_bytes, Encoding.shown_of_cut h, ?_, h.countP_isBad_le⟩
    rw [Encoding.chars, decode_of_cut h, count_replacement]
  · rintro x c y rfl
    exact Encoding.shown_around x c y
  · obtain ⟨x, s, rfl, hs, hapart⟩ := exists_trailing a
    refine ⟨x, s, rfl, hs, ?_, fun b => ?_⟩
    · have hx := Encoding.shown_append (hapart [])
      rw [List.append_nil] at hx
      rw [hx]
      obtain rfl | hi := hs
      · rfl
      · rw [if_neg hi.1, Encoding.shown_incomplete hi]
    · rw [List.append_assoc, Encoding.shown_append (hapart b)]

/-- A surrogate in three bytes is three parts, and a character that another one cuts short is one. -/
example : decode [0xED, 0xA0, 0x80] = [replacement, replacement, replacement] ∧
    decode [0xF0, 0x9F, 0x98, 0x41] = [replacement, 'A'] := by decide

/-! ## One-byte code pages -/

namespace Text

theorem latin1Char_injective : Function.Injective latin1Char := by
  intro a b h
  rw [← UInt8.toNat_inj, ← toNat_byteChar, ← toNat_byteChar]
  exact congrArg Char.toNat h

theorem nodup_cp437Upper : cp437Upper.toList.Nodup := by
  decide +kernel

/-- The upper half has code points below the surrogates and none of the lower half. -/
theorem range_cp437Upper : ∀ v ∈ cp437Upper.toList, 128 ≤ v ∧ v < 0xD800 := by
  decide +kernel

theorem toNat_cp437Char_of_lt {b : UInt8} (h : b.toNat < 128) : (cp437Char b).toNat = b.toNat := by
  rw [cp437Char, if_pos (UInt8.lt_iff_toNat_lt.mpr h), toNat_byteChar]

/-- The bytes from 128 on are the indices of the upper half. -/
theorem exists_index_of_ge {b : UInt8} (h : 128 ≤ b.toNat) :
    ∃ i, b.toNat = 128 + i ∧ ∃ hi : i < cp437Upper.toList.length,
      (cp437Char b).toNat = cp437Upper.toList[i] := by
  have hlt := b.toNat_lt
  have hi : b.toNat - 128 < cp437Upper.toList.length := by
    rw [Array.length_toList, size_cp437Upper]
    omega
  have hvalid := range_cp437Upper _ (List.getElem_mem hi)
  have hupper : ¬ b < 128 := fun h' => absurd (UInt8.lt_iff_toNat_lt.mp h') (Nat.not_lt.mpr h)
  refine ⟨b.toNat - 128, by omega, hi, ?_⟩
  rw [cp437Char, if_neg hupper, Array.getD_eq_getD_getElem?, ← Array.getElem?_toList,
    List.getElem?_eq_getElem hi, Option.getD_some, toNat_ofNat (.inl hvalid.2)]

/-- An upper byte is shown as no byte of the lower half is. -/
theorem toNat_cp437Char_ge {b : UInt8} (h : 128 ≤ b.toNat) : 128 ≤ (cp437Char b).toNat := by
  obtain ⟨i, -, hi, hchar⟩ := exists_index_of_ge h
  rw [hchar]
  exact (range_cp437Upper _ (List.getElem_mem hi)).1

theorem cp437Char_injective : Function.Injective cp437Char := by
  intro a b h
  rw [← UInt8.toNat_inj]
  have hnat : (cp437Char a).toNat = (cp437Char b).toNat := congrArg Char.toNat h
  obtain ha | ha := Nat.lt_or_ge a.toNat 128
  · obtain hb | hb := Nat.lt_or_ge b.toNat 128
    · rwa [toNat_cp437Char_of_lt ha, toNat_cp437Char_of_lt hb] at hnat
    · have := toNat_cp437Char_ge hb
      rw [← hnat, toNat_cp437Char_of_lt ha] at this
      omega
  · obtain hb | hb := Nat.lt_or_ge b.toNat 128
    · have := toNat_cp437Char_ge ha
      rw [hnat, toNat_cp437Char_of_lt hb] at this
      omega
    · obtain ⟨i, hai, hi, hchar⟩ := exists_index_of_ge ha
      obtain ⟨j, hbj, hj, hchar'⟩ := exists_index_of_ge hb
      rw [hchar, hchar', nodup_cp437Upper.getElem_inj_iff] at hnat
      rw [hai, hbj, hnat]

end Text

/-- **A one-byte encoding loses nothing.** The text that output is shown as has one character for
each byte, later output is shown after it, and different outputs are shown as different texts. -/
theorem one_byte_lossless (e : Encoding) (he : e = .latin1 ∨ e = .cp437) (a b : Bytes) :
    (∃ cs, e.shown a = encode cs ∧ cs.length = a.length) ∧
    e.shown (a ++ b) = e.shown a ++ e.shown b ∧
    (e.shown a = e.shown b → a = b) := by
  have hpage : ∃ page : UInt8 → Char, Function.Injective page ∧ ∀ bs, e.chars bs = bs.map page := by
    obtain rfl | rfl := he
    · exact ⟨_, Text.latin1Char_injective, fun _ => rfl⟩
    · exact ⟨_, Text.cp437Char_injective, fun _ => rfl⟩
  obtain ⟨page, hinjective, hchars⟩ := hpage
  simp only [Encoding.shown_eq, hchars]
  refine ⟨⟨_, rfl, List.length_map _⟩, ?_, fun h => ?_⟩
  · rw [List.map_append, encode_append]
  · exact List.map_injective_iff.mpr hinjective (encode_injective h)

/-- A letter and a block of code page 437, of two and three bytes in UTF-8, and a line feed. -/
theorem one_byte_lossless_block :
    (Encoding.cp437 = .latin1 ∨ Encoding.cp437 = .cp437) ∧
    (∃ cs, Encoding.cp437.shown [0x82, 0xDB] = encode cs ∧ cs.length = 2) ∧
    Encoding.cp437.shown [0x82, 0xDB, 0x0A] = [0xC3, 0xA9, 0xE2, 0x96, 0x88, 0x0A] ∧
    Encoding.cp437.shown [0x82, 0xDB] ≠ Encoding.cp437.shown [0x0A] := by
  have he : Encoding.cp437 = .latin1 ∨ Encoding.cp437 = .cp437 := .inr rfl
  obtain ⟨hchars, happend, hinjective⟩ := one_byte_lossless .cp437 he [0x82, 0xDB] [0x0A]
  refine ⟨he, hchars, ?_, fun h => absurd (hinjective h) (by decide)⟩
  rw [List.cons_append, List.cons_append, List.nil_append] at happend
  rw [happend, Encoding.shown_eq, Encoding.shown_eq]
  decide +kernel

end TapeDeck
