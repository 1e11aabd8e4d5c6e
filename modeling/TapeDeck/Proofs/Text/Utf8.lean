import TapeDeck.Proofs.Text.Cut

/-!
# The reader cuts a byte string

The reader takes one byte at a time and never looks back, while maximal parts are told by what could
follow. What makes the two agree is that the reader knows of a pending character just what the bytes
seen say of it (`Pending.Begun`): they begin the characters whose code points agree with the bits so
far and with the range of the next byte, and every number that does is a code point. One more byte
keeps this (`Pending.Begun.goes_on`, from `Pending.Begun.append_isPrefix_iff`), and each lead byte
establishes it (`begins_begin`), where the ranges leave out overlong forms, surrogates and numbers
that are too large.

So a byte that the reader refuses goes on no character, and what it had seen is a maximal part
(`Reader.feed_steps`). A run follows by induction (`Reader.pieces_foldl_feed`).

**`cut_pieces`**: the pieces that the reader finds are the pieces of the byte string. Hence
characters are read back (`decode_encode`), and byte strings that are apart are decoded apart
(`decode_append`).
-/

namespace TapeDeck.Utf8

/-! ## Characters that are pending -/

/-- `p.Admits v`: the code point `v` agrees with what is known of the pending character. -/
def Pending.Admits (p : Pending) (v : Nat) : Prop :=
  v / 64 ^ (p.owed + 1) = p.bits ∧ p.low.toNat ≤ 0x80 + v / 64 ^ p.owed % 64 ∧
    0x80 + v / 64 ^ p.owed % 64 ≤ p.high.toNat

/-- `p.Begun`: the bytes seen begin the characters whose code points are admitted and no others, and
every number that is admitted is a code point. -/
structure Pending.Begun (p : Pending) : Prop where
  seen_ne_nil : p.seen ≠ []
  low_le : 0x80 ≤ p.low.toNat
  le_high : p.low.toNat ≤ p.high.toNat
  high_le : p.high.toNat ≤ 0xBF
  isPrefix_iff : ∀ c, p.seen <+: String.utf8EncodeChar c ↔ p.Admits c.toNat
  length_eq : ∀ c, p.seen <+: String.utf8EncodeChar c →
    (String.utf8EncodeChar c).length = p.seen.length + p.owed + 1
  valid : ∀ v, p.Admits v → v.isValidChar

/-- `p.Takes b`: the pending character can go on with `b`. -/
def Pending.Takes (p : Pending) (b : UInt8) : Prop :=
  p.low ≤ b ∧ b ≤ p.high

namespace Pending.Begun

variable {p : Pending} {b : UInt8}

theorem takes_iff : p.Takes b ↔ p.low.toNat ≤ b.toNat ∧ b.toNat ≤ p.high.toNat := by
  rw [Takes, UInt8.le_iff_toNat_le, UInt8.le_iff_toNat_le]

/-- A code point whose bits go on with a byte that is taken is one that is admitted. -/
theorem admits_of_bits (h : p.Begun) (hb : p.Takes b) {v : Nat}
    (hv : v / 64 ^ p.owed = p.bitsAfter b) : p.Admits v := by
  have hlow := h.low_le
  have hhigh := h.high_le
  rw [takes_iff] at hb
  unfold Admits
  rw [Nat.pow_succ, ← Nat.div_div_eq_div_mul, hv, bitsAfter]
  omega

/-- **One more byte.** The bytes seen and `b` begin the characters whose bits go on with `b`, if
the pending character takes it, and no others. -/
theorem append_isPrefix_iff (h : p.Begun) (c : Char) :
    p.seen ++ [b] <+: String.utf8EncodeChar c ↔
      c.toNat / 64 ^ p.owed = p.bitsAfter b ∧ p.Takes b := by
  constructor
  · rintro ⟨r, hr⟩
    have hseen : p.seen <+: String.utf8EncodeChar c := ⟨[b] ++ r, by rw [← hr, List.append_assoc]⟩
    have hlength := h.length_eq c hseen
    rw [← hr, List.length_append, List.length_append, List.length_singleton] at hlength
    obtain ⟨hbits, hlow, hhigh⟩ := (h.isPrefix_iff c).mp hseen
    rw [List.append_assoc] at hr
    have htail := eq_tail_of_append hr.symm h.seen_ne_nil
    have howed : r.length = p.owed := by omega
    have hdigit : b.toNat = 0x80 + c.toNat / 64 ^ p.owed % 64 := by
      rw [List.singleton_append, List.length_cons, howed, tail] at htail
      rw [(List.cons.inj htail).1, toNat_digit]
    rw [Nat.pow_succ, ← Nat.div_div_eq_div_mul] at hbits
    rw [takes_iff, bitsAfter]
    omega
  · rintro ⟨hbits, hb⟩
    have hadmits := h.admits_of_bits hb hbits
    obtain ⟨r, hr⟩ := (h.isPrefix_iff c).mpr hadmits
    have hlength := h.length_eq c ⟨r, hr⟩
    rw [← hr, List.length_append] at hlength
    have htail := eq_tail_of_append hr.symm h.seen_ne_nil
    have howed : r.length = p.owed + 1 := by omega
    rw [howed, tail, hbits] at htail
    have hdigit : UInt8.ofNat (0x80 + p.bitsAfter b % 64) = b := by
      have hlow := h.low_le
      have hhigh := h.high_le
      rw [takes_iff] at hb
      rw [← UInt8.toNat_inj, toNat_digit, bitsAfter]
      omega
    rw [hdigit] at htail
    exact ⟨tail p.owed c.toNat, by rw [← hr, htail]; simp⟩

theorem exists_append_isPrefix (h : p.Begun) (hb : p.Takes b) :
    ∃ c, p.seen ++ [b] <+: String.utf8EncodeChar c := by
  have hbits : p.bitsAfter b * 64 ^ p.owed / 64 ^ p.owed = p.bitsAfter b :=
    Nat.mul_div_cancel _ (Nat.pow_pos (by decide))
  have hvalid := h.valid _ (h.admits_of_bits hb hbits)
  refine ⟨Char.ofNat (p.bitsAfter b * 64 ^ p.owed), (h.append_isPrefix_iff _).mpr ⟨?_, hb⟩⟩
  rw [toNat_ofNat hvalid, hbits]

/-- What is pending is not finished. -/
theorem incomplete (h : p.Begun) : Incomplete p.seen := by
  have hlow : p.Takes p.low := ⟨UInt8.le_refl _, UInt8.le_iff_toNat_le.mpr h.le_high⟩
  obtain ⟨c, hc⟩ := h.exists_append_isPrefix hlow
  exact incomplete_of_append_isPrefix h.seen_ne_nil hc

/-- The last byte of a character finishes it. -/
theorem finishes (h : p.Begun) (howed : p.owed = 0) (hb : p.Takes b) :
    String.utf8EncodeChar (Char.ofNat (p.bitsAfter b)) = p.seen ++ [b] := by
  have hbits : p.bitsAfter b / 64 ^ p.owed = p.bitsAfter b := by
    rw [howed, Nat.pow_zero, Nat.div_one]
  have hvalid := h.valid _ (h.admits_of_bits hb hbits)
  have hbegins : p.seen ++ [b] <+: String.utf8EncodeChar (Char.ofNat (p.bitsAfter b)) := by
    rw [h.append_isPrefix_iff, toNat_ofNat hvalid]
    exact ⟨hbits, hb⟩
  have hlength := h.length_eq _ ((List.prefix_append _ _).trans hbegins)
  refine (hbegins.eq_of_length ?_).symm
  rw [hlength, howed, List.length_append, List.length_singleton]

/-- Any other byte leaves a character pending. -/
theorem goes_on (h : p.Begun) {owed : Nat} (howed : p.owed = owed + 1) (hb : p.Takes b) :
    Pending.Begun ⟨p.seen ++ [b], owed, 0x80, 0xBF, p.bitsAfter b⟩ where
  seen_ne_nil := by simp
  low_le := Nat.le_refl 0x80
  le_high := (by decide : 0x80 ≤ 0xBF)
  high_le := Nat.le_refl 0xBF
  isPrefix_iff c := by
    rw [h.append_isPrefix_iff, howed, and_iff_left hb]
    refine ⟨fun hbits => ⟨hbits, ?_⟩, And.left⟩
    simp only [UInt8.reduceToNat]
    omega
  length_eq c hc := by
    have hlength := h.length_eq c ((List.prefix_append _ _).trans hc)
    rw [howed] at hlength
    simp only [List.length_append, List.length_singleton]
    omega
  valid v hv := h.valid v (h.admits_of_bits hb (by rw [howed]; exact hv.1))

end Pending.Begun

/-! ## First bytes -/

theorem begun_of_lead {b low high : UInt8} {owed bits : Nat} (hlow : 0x80 ≤ low.toNat)
    (hle : low.toNat ≤ high.toNat) (hhigh : high.toNat ≤ 0xBF)
    (hadmits : ∀ v, Pending.Admits ⟨[b], owed, low, high, bits⟩ v ↔
      v.isValidChar ∧ leadOf v = b.toNat)
    (howed : ∀ v, leadOf v = b.toNat → owedBy v = owed + 1) :
    Pending.Begun ⟨[b], owed, low, high, bits⟩ where
  seen_ne_nil := by simp
  low_le := hlow
  le_high := hle
  high_le := hhigh
  isPrefix_iff c := by
    rw [hadmits, singleton_isPrefix_iff]
    exact (and_iff_right c.valid).symm
  length_eq c hc := by
    rw [length_encodeChar, howed _ (singleton_isPrefix_iff.mp hc)]
    exact congrArg Nat.succ (Nat.add_comm owed 1)
  valid v hv := ((hadmits v).mp hv).1

theorem encodeChar_byteChar {b : UInt8} (h : b.toNat ≤ 0x7F) :
    String.utf8EncodeChar (byteChar b) = [b] := by
  have hlead : leadOf b.toNat = b.toNat := if_pos (by omega)
  have howed : owedBy b.toNat = 0 := if_pos (by omega)
  rw [utf8EncodeChar_eq, toNat_byteChar, hlead, howed, UInt8.ofNat_toNat]
  rfl

/-- `Begins b x`: when nothing is pending, `b` begins `x`. -/
def Begins (b : UInt8) : Piece ⊕ Pending → Prop
  | .inl (.char c bs) => bs = [b] ∧ String.utf8EncodeChar c = [b]
  | .inl (.bad bs) => bs = [b] ∧ ∀ c, ¬ [b] <+: String.utf8EncodeChar c
  | .inr p => p.seen = [b] ∧ p.Begun

theorem begins_begin (b : UInt8) : Begins b (begin b) := by
  have hb := b.toNat_lt
  unfold begin
  simp only [UInt8.le_iff_toNat_le, ← UInt8.toNat_inj, UInt8.reduceToNat]
  -- one byte, the leads in the order of the tests, and no lead at all
  repeat' split
  · exact ⟨rfl, encodeChar_byteChar (by assumption)⟩
  rotate_right
  · refine ⟨rfl, fun c hc => ?_⟩
    have := toNat_lt c
    rw [singleton_isPrefix_iff] at hc
    unfold leadOf at hc
    split_ifs at hc <;> omega
  all_goals
    refine ⟨rfl, begun_of_lead (by decide) (by decide) (by decide) (fun v => ?_) fun v => ?_⟩
    · simp only [Pending.Admits, leadOf, Nat.isValidChar, UInt8.reduceToNat]
      split_ifs <;> omega
    · simp only [leadOf, owedBy]
      split_ifs <;> omega

/-! ## The reader -/

namespace Reader

/-- The bytes of the character that is pending. -/
def seen (r : Reader) : Bytes :=
  (r.pending.map Pending.seen).getD []

@[simp]
theorem seen_some (done : Array Piece) (p : Pending) : seen ⟨done, some p⟩ = p.seen := rfl

/-- What is pending has been begun. -/
def Sound (r : Reader) : Prop :=
  ∀ p ∈ r.pending, p.Begun

/-- `r.Steps b r'`: the reader `r'` has read `b` after `r`. It is sound. Whatever follows, the pieces
of the bytes that `r` has not completed are those that `r'` has completed since, and then those of
the bytes that `r'` has not completed. -/
def Steps (r : Reader) (b : UInt8) (r' : Reader) : Prop :=
  r'.Sound ∧ ∃ ps, r'.done.toList = r.done.toList ++ ps ∧
    ∀ rest qs, Cut (r'.seen ++ rest) qs → Cut (r.seen ++ b :: rest) (ps ++ qs)

/-- A byte that is read when nothing is pending. -/
theorem first_steps (done : Array Piece) (b : UInt8) : Steps ⟨done, none⟩ b (first done b) := by
  have hspec := begins_begin b
  unfold first
  match hbegin : begin b with
  | .inl (.char c bs) =>
    rw [hbegin] at hspec
    obtain ⟨rfl, hc⟩ := hspec
    refine ⟨nofun, [.char c [b]], by simp, fun rest qs h => ?_⟩
    have hcut := Cut.char c h
    rw [hc] at hcut
    exact hcut
  | .inl (.bad bs) =>
    rw [hbegin] at hspec
    obtain ⟨rfl, hnone⟩ := hspec
    have hmaximal (rest : Bytes) : MaximalPart [b] rest := by
      refine maximalPart_iff.mpr ⟨fun c hc => ?_, .inl rfl, fun b' _ c hc => ?_⟩
      · obtain hnil | ⟨r, hr, -⟩ := List.prefix_cons_iff.mp hc
        · exact String.utf8EncodeChar_ne_nil hnil
        · exact hnone c ⟨r, hr.symm⟩
      · exact hnone c ((List.prefix_append _ _).trans hc)
    exact ⟨nofun, [.bad [b]], by simp, fun rest qs h => .bad (hmaximal rest) h⟩
  | .inr p =>
    rw [hbegin] at hspec
    obtain ⟨hseen, hp⟩ := hspec
    refine ⟨fun q hq => ?_, [], by simp, fun rest qs h => ?_⟩
    · obtain rfl := Option.some.inj hq
      exact hp
    · rwa [seen_some, hseen] at h

/-- **One byte.** -/
theorem feed_steps {r : Reader} (h : r.Sound) (b : UInt8) : r.Steps b (r.feed b) := by
  obtain ⟨done, _ | p⟩ := r
  · exact first_steps done b
  have hp : p.Begun := h p rfl
  by_cases hb : p.Takes b
  · cases howed : p.owed with
    | zero =>
      have hfeed : feed ⟨done, some p⟩ b =
          ⟨done.push (.char (Char.ofNat (p.bitsAfter b)) (p.seen ++ [b])), none⟩ := by
        simp only [feed, howed]
        exact if_pos hb
      rw [hfeed]
      refine ⟨nofun, [.char (Char.ofNat (p.bitsAfter b)) (p.seen ++ [b])], by simp,
        fun rest qs h => ?_⟩
      have hcut := Cut.char (Char.ofNat (p.bitsAfter b)) h
      rw [hp.finishes howed hb, List.append_assoc] at hcut
      exact hcut
    | succ owed =>
      have hfeed : feed ⟨done, some p⟩ b =
          ⟨done, some ⟨p.seen ++ [b], owed, 0x80, 0xBF, p.bitsAfter b⟩⟩ := by
        simp only [feed, howed]
        exact if_pos hb
      rw [hfeed]
      refine ⟨fun q hq => ?_, [], by simp, fun rest qs h => ?_⟩
      · obtain rfl := Option.some.inj hq
        exact hp.goes_on howed hb
      · rwa [seen_some, List.append_assoc] at h
  · have hfeed : feed ⟨done, some p⟩ b = first (done.push (.bad p.seen)) b := if_neg hb
    obtain ⟨hsound, ps, hdone, hcut⟩ := first_steps (done.push (.bad p.seen)) b
    rw [hfeed]
    refine ⟨hsound, .bad p.seen :: ps, by simpa using hdone, fun rest qs h => ?_⟩
    refine .bad (maximalPart_iff.mpr ⟨hp.incomplete.not_char, .inr hp.incomplete, ?_⟩)
      (hcut rest qs h)
    intro b' hb' c hc
    obtain rfl : b = b' := by simpa using hb'
    exact hb ((hp.append_isPrefix_iff c).mp hc).2

/-- **A run.** What a sound reader has completed stays, and the pieces after it are those of the
bytes that it has not completed. -/
theorem pieces_foldl_feed (bs : Bytes) {r : Reader} (h : r.Sound) :
    ∃ ps, (bs.foldl feed r).pieces = r.done.toList ++ ps ∧ Cut (r.seen ++ bs) ps := by
  induction bs generalizing r with
  | nil =>
    obtain ⟨done, _ | p⟩ := r
    · exact ⟨[], rfl, .nil⟩
    · refine ⟨[.bad p.seen], rfl, ?_⟩
      rw [List.append_nil]
      exact (h p rfl).incomplete.cut
  | cons b bs ih =>
    obtain ⟨hsound, ps, hdone, hcut⟩ := feed_steps h b
    obtain ⟨qs, hpieces, hqs⟩ := ih hsound
    refine ⟨ps ++ qs, ?_, hcut bs qs hqs⟩
    rw [List.foldl_cons, hpieces, hdone, List.append_assoc]

end Reader

/-- **The reader cuts.** -/
theorem cut_pieces (bs : Bytes) : Cut bs (pieces bs) := by
  obtain ⟨ps, hpieces, hcut⟩ := Reader.pieces_foldl_feed bs (r := Reader.empty) nofun
  rw [pieces, hpieces]
  exact hcut

theorem decode_of_cut {bs : Bytes} {ps : List Piece} (h : Cut bs ps) :
    decode bs = ps.map Piece.shown := by
  rw [decode, (cut_pieces bs).unique h]

theorem decode_encode (cs : List Char) : decode (encode cs) = cs := by
  rw [decode_of_cut (cut_encode cs), List.map_map]
  exact List.map_id cs

theorem decode_append {x y : Bytes} (h : Apart x y) : decode (x ++ y) = decode x ++ decode y := by
  rw [decode_of_cut ((cut_pieces x).append (cut_pieces y) h), List.map_append]
  rfl

end TapeDeck.Utf8
