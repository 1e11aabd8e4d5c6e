import TapeDeck.Proofs.Text.CharBytes
import Mathlib.Tactic.MkIffOfInductiveProp

/-!
# Cutting a byte string

How a byte string falls into characters and ill-formed parts, said without a reader. Where a
character begins, the character is a piece. Where none does, the piece is the *maximal part*: the
longest run of bytes that begins a character without being one, or one byte when no byte is
(`MaximalPart`). `Cut` says that pieces are those of a byte string; they are determined by it
(`Cut.unique`).

A maximal part ends where the next byte goes on no character that it begins
(`maximalPart_iff`), so only a character that the first of two byte strings leaves unfinished can
have pieces of both. `Apart` excludes that, and then the pieces of the two are those of the whole
(`Cut.append`).
-/

namespace TapeDeck.Utf8

/-- A character that has been begun and is not finished. -/
def Incomplete (s : Bytes) : Prop :=
  s ≠ [] ∧ ∃ c, s <+: String.utf8EncodeChar c ∧ s ≠ String.utf8EncodeChar c

/-- `MaximalPart s rest`: no character begins at `s`, which `rest` follows, and `s` is the longest
run of bytes there that begins one, or a single byte. -/
structure MaximalPart (s rest : Bytes) : Prop where
  not_char : ∀ c, ¬ String.utf8EncodeChar c <+: s ++ rest
  begins : s.length = 1 ∨ Incomplete s
  longest : ∀ t, t <+: s ++ rest → Incomplete t → t.length ≤ s.length

/-- `Cut bs ps`: the pieces of `bs` are `ps`. -/
@[mk_iff]
inductive Cut : Bytes → List Piece → Prop
  | nil : Cut [] []
  | char (c : Char) {rest : Bytes} {ps : List Piece} (h : Cut rest ps) :
      Cut (String.utf8EncodeChar c ++ rest) (.char c (String.utf8EncodeChar c) :: ps)
  | bad {s rest : Bytes} {ps : List Piece} (hs : MaximalPart s rest) (h : Cut rest ps) :
      Cut (s ++ rest) (.bad s :: ps)

/-! ## Unfinished characters -/

/-- What is not finished holds no character at its beginning. -/
theorem Incomplete.not_char {s : Bytes} (h : Incomplete s) (c : Char) :
    ¬ String.utf8EncodeChar c <+: s := by
  rintro ⟨r, rfl⟩
  obtain ⟨-, d, ⟨r', hd⟩, hne⟩ := h
  have happend : String.utf8EncodeChar c ++ (r ++ r') = String.utf8EncodeChar d ++ [] := by
    rw [← List.append_assoc, hd, List.append_nil]
  obtain ⟨rfl, hnil⟩ := encodeChar_append_inj happend
  obtain ⟨rfl, -⟩ := List.append_eq_nil_iff.mp hnil
  exact hne (List.append_nil _)

/-- What can be gone on with is not finished. -/
theorem incomplete_of_append_isPrefix {s : Bytes} {b : UInt8} {c : Char} (hs : s ≠ [])
    (h : s ++ [b] <+: String.utf8EncodeChar c) : Incomplete s := by
  refine ⟨hs, c, (List.prefix_append s [b]).trans h, ?_⟩
  rintro rfl
  have := h.length_le
  simp at this

theorem Incomplete.exists_lead {s : Bytes} (h : Incomplete s) :
    ∃ b r, s = b :: r ∧ ¬ Continues b := by
  obtain ⟨hs, c, hc, -⟩ := h
  obtain ⟨b, r, rfl⟩ := List.exists_cons_of_ne_nil hs
  exact ⟨b, r, rfl, not_continues_of_isPrefix ((List.prefix_append [b] r).trans hc)⟩

/-! ## Maximal parts -/

theorem MaximalPart.ne_nil {s rest : Bytes} (h : MaximalPart s rest) : s ≠ [] := by
  rintro rfl
  obtain h | ⟨h, -⟩ := h.begins
  · exact absurd h nofun
  · exact h rfl

/-- The byte after a maximal part does not go on with it. -/
theorem MaximalPart.not_append_isPrefix {s rest : Bytes} {b : UInt8} (h : MaximalPart s (b :: rest))
    (c : Char) : ¬ s ++ [b] <+: String.utf8EncodeChar c := by
  intro hc
  have hthere : s ++ [b] <+: s ++ b :: rest := ⟨rest, by simp⟩
  by_cases heq : s ++ [b] = String.utf8EncodeChar c
  · exact h.not_char c (heq ▸ hthere)
  · have hlength := h.longest _ hthere ⟨by simp, c, hc, heq⟩
    rw [List.length_append, List.length_singleton] at hlength
    omega

/-- A part is maximal when it is no character and the next byte does not go on with it. -/
theorem maximalPart_iff {s rest : Bytes} :
    MaximalPart s rest ↔ (∀ c, ¬ String.utf8EncodeChar c <+: s) ∧ (s.length = 1 ∨ Incomplete s) ∧
      ∀ b ∈ rest.head?, ∀ c, ¬ s ++ [b] <+: String.utf8EncodeChar c := by
  constructor
  · intro h
    refine ⟨fun c hc => h.not_char c (hc.trans (List.prefix_append s rest)), h.begins, ?_⟩
    intro b hb
    obtain ⟨rest, rfl⟩ : ∃ r, rest = b :: r := List.head?_eq_some_iff.mp hb
    exact h.not_append_isPrefix
  · rintro ⟨hchar, hbegins, hnext⟩
    -- whatever begins a character and stands here is not longer than `s`
    have hshort {t : Bytes} {c : Char} (ht : t <+: s ++ rest)
        (hc : t <+: String.utf8EncodeChar c) : t <+: s := by
      obtain hts | hst := List.prefix_or_prefix_of_prefix ht (List.prefix_append s rest)
      · exact hts
      · obtain ⟨t, rfl⟩ := hst
        cases t with
        | nil => simp
        | cons b t =>
          obtain ⟨after, hafter⟩ := (List.prefix_append_right_inj s).mp ht
          refine absurd ?_ (hnext b (by simp [← hafter]) c)
          exact List.IsPrefix.trans ⟨t, by simp⟩ hc
    refine ⟨fun c hc => hchar c (hshort hc (List.prefix_refl _)), hbegins, fun t ht hi => ?_⟩
    obtain ⟨-, c, hc, -⟩ := hi
    exact (hshort ht hc).length_le

theorem Incomplete.maximalPart {s : Bytes} (h : Incomplete s) : MaximalPart s [] :=
  maximalPart_iff.mpr ⟨h.not_char, .inr h, nofun⟩

/-- No maximal part is longer than another in the same place. -/
theorem MaximalPart.length_le {s rest s' rest' : Bytes} (h : MaximalPart s rest)
    (h' : MaximalPart s' rest') (heq : s ++ rest = s' ++ rest') : s.length ≤ s'.length := by
  obtain hone | hs := h.begins
  · rw [hone]
    exact List.length_pos_iff.mpr h'.ne_nil
  · exact h'.longest s (heq ▸ List.prefix_append s rest) hs

/-! ## Cuts -/

/-- **The pieces of a byte string are determined by it.** -/
theorem Cut.unique {bs : Bytes} {ps qs : List Piece} (hp : Cut bs ps) (hq : Cut bs qs) :
    ps = qs := by
  induction hp generalizing qs with
  | nil =>
    obtain ⟨-, rfl⟩ | ⟨c, rest, ps, -, hnil, -⟩ | ⟨s, rest, ps, hs, -, hnil, -⟩ :=
      (cut_iff _ _).mp hq
    · rfl
    · exact absurd (List.append_eq_nil_iff.mp hnil.symm).1 String.utf8EncodeChar_ne_nil
    · exact absurd (List.append_eq_nil_iff.mp hnil.symm).1 hs.ne_nil
  | char c h ih =>
    obtain ⟨hnil, -⟩ | ⟨d, rest, ps, h', heq, rfl⟩ | ⟨s, rest, ps, hs, -, heq, -⟩ :=
      (cut_iff _ _).mp hq
    · exact absurd (List.append_eq_nil_iff.mp hnil).1 String.utf8EncodeChar_ne_nil
    · obtain ⟨rfl, rfl⟩ := encodeChar_append_inj heq
      rw [ih h']
    · exact absurd ⟨_, heq⟩ (hs.not_char c)
  | @bad s rest ps hs h ih =>
    obtain ⟨hnil, -⟩ | ⟨d, rest', ps', -, heq, -⟩ | ⟨s', rest', ps', hs', h', heq, rfl⟩ :=
      (cut_iff _ _).mp hq
    · exact absurd (List.append_eq_nil_iff.mp hnil).1 hs.ne_nil
    · exact absurd ⟨_, heq.symm⟩ (hs.not_char d)
    · have hlength : s.length = s'.length :=
        Nat.le_antisymm (hs.length_le hs' heq) (hs'.length_le hs heq.symm)
      obtain ⟨rfl, rfl⟩ := List.append_inj heq hlength
      rw [ih h']

/-- What is made of characters is cut into them. -/
theorem cut_encode (cs : List Char) :
    Cut (encode cs) (cs.map fun c => .char c (String.utf8EncodeChar c)) := by
  induction cs with
  | nil => exact .nil
  | cons c cs ih => exact .char c ih

theorem Incomplete.cut {s : Bytes} (h : Incomplete s) : Cut s [.bad s] := by
  have hcut := Cut.bad h.maximalPart .nil
  rwa [List.append_nil] at hcut

/-! ## Byte strings one after the other -/

/-- No character that is unfinished at the end of `x` goes on with the first byte of `y`. -/
def Apart (x y : Bytes) : Prop :=
  ∀ s, s <:+ x → Incomplete s → ∀ b ∈ y.head?, ∀ c, ¬ s ++ [b] <+: String.utf8EncodeChar c

theorem Apart.of_suffix {x x' y : Bytes} (h : Apart x y) (hx : x' <:+ x) : Apart x' y :=
  fun s hs => h s (hs.trans hx)

/-- A byte string without an unfinished character at its end is apart from any other. -/
theorem apart_of_complete {x : Bytes} (h : ∀ s, s <:+ x → ¬ Incomplete s) (y : Bytes) :
    Apart x y :=
  fun s hs hi => absurd hi (h s hs)

/-- Any byte string is apart from one whose first byte does not go on a character. -/
theorem apart_of_lead (x : Bytes) {b : UInt8} (hb : ¬ Continues b) (y : Bytes) :
    Apart x (b :: y) := by
  intro s _ hi b' hb' c hc
  obtain rfl : b = b' := by simpa using hb'
  exact hb (continues_of_append_isPrefix hi.1 hc)

/-- A maximal part stays one when a byte string that is apart follows. -/
theorem MaximalPart.append {s rest y : Bytes} (h : MaximalPart s rest)
    (hy : Apart (s ++ rest) y) : MaximalPart s (rest ++ y) := by
  obtain ⟨hchar, hbegins, hnext⟩ := maximalPart_iff.mp h
  refine maximalPart_iff.mpr ⟨hchar, hbegins, ?_⟩
  cases rest with
  | cons b rest => exact hnext
  | nil =>
    intro b hb c hc
    rw [List.append_nil] at hy
    exact hy s (List.suffix_refl s) (incomplete_of_append_isPrefix h.ne_nil hc) b hb c hc

/-- **Byte strings that are apart are cut apart.** -/
theorem Cut.append {x y : Bytes} {ps qs : List Piece} (hx : Cut x ps) (hy : Cut y qs)
    (h : Apart x y) : Cut (x ++ y) (ps ++ qs) := by
  induction hx with
  | nil => exact hy
  | char c _ ih =>
    rw [List.append_assoc]
    exact .char c (ih (h.of_suffix (List.suffix_append _ _)))
  | bad hs _ ih =>
    rw [List.append_assoc]
    exact .bad (hs.append h) (ih (h.of_suffix (List.suffix_append _ _)))

end TapeDeck.Utf8
