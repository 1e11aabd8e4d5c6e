import Mathlib.Combinatorics.Enumerative.DyckWord
import TapeDeck.Proofs.Program.Partner

/-!
# Balanced programs

The brackets of a program, with everything else left out, are steps up and down. The program is
balanced when they form a Dyck word: as many of either kind, and never more closing than opening
ones from the start on (`balanced_iff`).

A scan fails exactly where the count runs out. Where no earlier place has more brackets closed than
opened, the backward scan from `i` at depth `d` finds something as long as more than `d` brackets
are still open there (`isSome_findOpen_iff`); the forward scan is the same seen from the end
(`isSome_findClose_iff`). So every closing bracket has a partner exactly when no prefix has too many
of them, every opening one exactly when no suffix has too many, and both together say that the
program is balanced (**`all_paired_iff_balanced`**).
-/

namespace TapeDeck

/-! ## The brackets of a program -/

/-- The step up or down of a bracket. -/
def bracketStep? (b : UInt8) : Option DyckStep :=
  if b = openByte then some .U
  else if b = closeByte then some .D
  else none

/-- The brackets of some bytes, in order. -/
def brackets (bs : Bytes) : List DyckStep :=
  bs.filterMap bracketStep?

/-- The brackets of the program form a Dyck word. -/
def Balanced (source : Bytes) : Prop :=
  ∃ w : DyckWord, w.toList = brackets source

/-- The bracket that makes a step. -/
def bracketByte : DyckStep → UInt8
  | .U => openByte
  | .D => closeByte

theorem bracketStep?_eq_some_iff {b : UInt8} {s : DyckStep} :
    bracketStep? b = some s ↔ b = bracketByte s := by
  unfold bracketStep?
  split_ifs with ho hc
  · subst ho
    cases s <;> decide
  · subst hc
    cases s <;> decide
  · cases s <;> simp [bracketByte, ho, hc]

theorem count_brackets (bs : Bytes) (s : DyckStep) :
    (brackets bs).count s = bs.count (bracketByte s) := by
  unfold brackets
  rw [List.count_filterMap, List.count_eq_countP]
  refine List.countP_congr fun b _ => ?_
  simp only [beq_iff_eq]
  exact bracketStep?_eq_some_iff

/-- Balance in terms of the bytes: as many brackets of either kind, and in no prefix more closing
than opening ones. -/
theorem balanced_iff (source : Bytes) :
    Balanced source ↔ source.count openByte = source.count closeByte ∧
      ∀ i, (source.take i).count closeByte ≤ (source.take i).count openByte := by
  have hup (bs : Bytes) : bs.count openByte = (brackets bs).count .U := (count_brackets bs .U).symm
  have hdown (bs : Bytes) : bs.count closeByte = (brackets bs).count .D :=
    (count_brackets bs .D).symm
  constructor
  · rintro ⟨w, hw⟩
    refine ⟨?_, fun i => ?_⟩
    · rw [hup, hdown, ← hw]
      exact w.count_U_eq_count_D
    · have hprefix : brackets (source.take i) <+: w.toList := by
        rw [hw]
        exact (List.take_prefix i source).filterMap bracketStep?
      rw [hup, hdown, List.prefix_iff_eq_take.mp hprefix]
      exact w.count_D_le_count_U _
  · rintro ⟨htotal, hprefix⟩
    refine ⟨⟨brackets source, ?_, fun k => ?_⟩, rfl⟩
    · rw [← hup, ← hdown]
      exact htotal
    · -- a prefix of the brackets is the brackets of a prefix
      obtain ⟨bs, hbs, hk⟩ := List.prefix_filterMap_iff.mp
        (List.take_prefix k (brackets source))
      rw [hk]
      show (brackets bs).count .D ≤ (brackets bs).count .U
      rw [← hup, ← hdown, List.prefix_iff_eq_take.mp hbs]
      exact hprefix _

/-! ## Counts up to a position and from a position on -/

section Counts

variable {source : Bytes} {i : Nat} {b : UInt8}

theorem count_take_succ (hb : source[i]? = some b) (c : UInt8) :
    (source.take (i + 1)).count c = (source.take i).count c + if b = c then 1 else 0 := by
  rw [List.take_add_one, hb, List.count_append]
  simp [List.count_singleton]

theorem count_drop (hb : source[i]? = some b) (c : UInt8) :
    (source.drop i).count c = (source.drop (i + 1)).count c + if b = c then 1 else 0 := by
  obtain ⟨hi, rfl⟩ := List.getElem?_eq_some_iff.mp hb
  rw [List.drop_eq_getElem_cons hi, List.count_cons]
  simp

theorem count_take_add_drop (source : Bytes) (i : Nat) (c : UInt8) :
    (source.take i).count c + (source.drop i).count c = source.count c := by
  rw [← List.count_append, List.take_append_drop]

end Counts

/-! ## Where the scans fail -/

section Scans

variable {source : Bytes}

/-- **Where the backward scan fails.** If no prefix up to `i` has more brackets closed than opened,
the scan finds something at depth `d` exactly when more than `d` are still open. -/
theorem isSome_findOpen_iff {d i : Nat}
    (h : ∀ k ≤ i, (source.take k).count closeByte ≤ (source.take k).count openByte) :
    (findOpen source.toArray d i).isSome = true ↔
      d + (source.take i).count closeByte < (source.take i).count openByte := by
  induction i generalizing d with
  | zero => simp [findOpen]
  | succ i ih =>
    have ih' (d : Nat) := @ih d fun k hk => h k (by omega)
    have hi := h (i + 1) (Nat.le_refl _)
    cases hb : source[i]? with
    | none =>
      have hb' : source.toArray[i]? = none := by simpa using hb
      have hlen : source.length ≤ i := List.getElem?_eq_none_iff.mp hb
      rw [findOpen_plain (by simp [hb']) (by simp [hb']), ih',
        List.take_of_length_le hlen, List.take_of_length_le (by omega)]
    | some b =>
      have hb' : source.toArray[i]? = some b := by simpa using hb
      rw [count_take_succ hb, count_take_succ hb] at hi ⊢
      by_cases hc : b = closeByte
      · subst hc
        rw [if_pos rfl, if_neg openByte_ne_closeByte.symm] at hi ⊢
        rw [findOpen_close hb', ih']
        omega
      · by_cases ho : b = openByte
        · subst ho
          rw [if_neg openByte_ne_closeByte, if_pos rfl] at hi ⊢
          cases d with
          | zero =>
            have := h i (by omega)
            simp only [findOpen_open_zero hb', Option.isSome_some, true_iff]
            omega
          | succ d =>
            rw [findOpen_open_succ hb', ih']
            omega
        · rw [if_neg hc, if_neg ho, findOpen_plain (getElem?_ne_of_ne hb' ho)
            (getElem?_ne_of_ne hb' hc), ih']
          omega

/-- **Where the forward scan fails.** If no suffix from `i` on has more brackets opened than closed,
the scan finds something at depth `d` exactly when more than `d` are closed there without being
opened. -/
theorem isSome_findClose_iff {d i : Nat}
    (h : ∀ k, i ≤ k → (source.drop k).count openByte ≤ (source.drop k).count closeByte) :
    (findClose source.toArray d i).isSome = true ↔
      d + (source.drop i).count openByte < (source.drop i).count closeByte := by
  fun_induction findClose source.toArray d i with
  | case1 d i hi hb ih =>
    have hb := getElem?_of_toArray hi hb
    refine (ih fun k hk => h k (by omega)).trans ?_
    rw [count_drop hb, count_drop hb, if_pos rfl, if_neg openByte_ne_closeByte]
    omega
  | case2 i hi ho hc =>
    have hb := getElem?_of_toArray hi hc
    have hrest := h (i + 1) (by omega)
    rw [count_drop hb, count_drop hb, if_pos rfl, if_neg openByte_ne_closeByte.symm]
    simp only [Option.isSome_some, true_iff]
    omega
  | case3 i hi ho hc d ih =>
    have hb := getElem?_of_toArray hi hc
    refine (ih fun k hk => h k (by omega)).trans ?_
    rw [count_drop hb, count_drop hb, if_pos rfl, if_neg openByte_ne_closeByte.symm]
    omega
  | case4 d i hi ho hc ih =>
    have hb := getElem?_of_toArray hi rfl
    refine (ih fun k hk => h k (by omega)).trans ?_
    rw [count_drop hb, count_drop hb, if_neg ho, if_neg hc]
    omega
  | case5 d i hi =>
    have hlen : source.length ≤ i := by simpa using hi
    simp [List.drop_of_length_le hlen]

end Scans

/-! ## Every bracket has a partner -/

/-- No bracket of the program is without a partner. -/
def AllPaired (code : Code) : Prop :=
  ∀ i, code[i]? = some openByte ∨ code[i]? = some closeByte → partnerOf? code i ≠ none

section AllPaired

variable {source : Bytes}

theorem isSome_findClose_of_paired (h : AllPaired source.toArray) {i : Nat}
    (hb : source[i]? = some openByte) : (findClose source.toArray 0 (i + 1)).isSome = true := by
  have hb' : source.toArray[i]? = some openByte := by simpa using hb
  have hp := h i (.inl hb')
  rw [partnerOf?_open hb'] at hp
  exact Option.isSome_iff_ne_none.mpr hp

theorem isSome_findOpen_of_paired (h : AllPaired source.toArray) {i : Nat}
    (hb : source[i]? = some closeByte) : (findOpen source.toArray 0 i).isSome = true := by
  have hb' : source.toArray[i]? = some closeByte := by simpa using hb
  have hp := h i (.inr hb')
  rw [partnerOf?_close hb'] at hp
  exact Option.isSome_iff_ne_none.mpr hp

/-- If all brackets have partners, no prefix has more closing than opening ones. -/
theorem count_take_le_of_paired (h : AllPaired source.toArray) (i : Nat) :
    (source.take i).count closeByte ≤ (source.take i).count openByte := by
  induction i using Nat.strongRecOn with
  | ind i ih =>
    cases i with
    | zero => simp
    | succ i =>
      have hi := ih i (Nat.lt_succ_self i)
      cases hb : source[i]? with
      | none =>
        have hlen : source.length ≤ i := List.getElem?_eq_none_iff.mp hb
        rw [List.take_of_length_le hlen] at hi
        rwa [List.take_of_length_le (by omega)]
      | some b =>
        rw [count_take_succ hb, count_take_succ hb]
        by_cases hc : b = closeByte
        · -- the partner of this bracket is still open here
          subst hc
          have hopen := (isSome_findOpen_iff fun k hk => ih k (by omega)).mp
            (isSome_findOpen_of_paired h hb)
          rw [if_pos rfl]
          omega
        · rw [if_neg hc]
          omega

/-- If all brackets have partners, no suffix has more opening than closing ones. -/
theorem count_drop_le_of_paired (h : AllPaired source.toArray) {n k : Nat}
    (hn : source.length ≤ k + n) :
    (source.drop k).count openByte ≤ (source.drop k).count closeByte := by
  -- by the number of bytes that are left
  induction n generalizing k with
  | zero =>
    have hlen : source.length ≤ k := hn
    simp [List.drop_of_length_le hlen]
  | succ n ih =>
    cases hb : source[k]? with
    | none =>
      have hlen : source.length ≤ k := List.getElem?_eq_none_iff.mp hb
      simp [List.drop_of_length_le hlen]
    | some b =>
      have hnext := @ih (k + 1) (by omega)
      rw [count_drop hb, count_drop hb]
      by_cases ho : b = openByte
      · -- the partner of this bracket is closed further on, without being opened there
        subst ho
        have hclose := (isSome_findClose_iff fun k' hk' => @ih k' (by omega)).mp
          (isSome_findClose_of_paired h hb)
        rw [if_pos rfl]
        omega
      · rw [if_neg ho]
        omega

theorem balanced_of_paired (h : AllPaired source.toArray) : Balanced source := by
  rw [balanced_iff]
  refine ⟨?_, count_take_le_of_paired h⟩
  have hprefix := count_take_le_of_paired h source.length
  have hsuffix := count_drop_le_of_paired h (k := 0) (Nat.zero_add source.length).ge
  rw [List.take_length] at hprefix
  rw [List.drop_zero] at hsuffix
  omega

theorem paired_of_balanced (h : Balanced source) : AllPaired source.toArray := by
  obtain ⟨htotal, hprefix⟩ := (balanced_iff source).mp h
  have hsuffix (k : Nat) :
      (source.drop k).count openByte ≤ (source.drop k).count closeByte := by
    have hup := count_take_add_drop source k openByte
    have hdown := count_take_add_drop source k closeByte
    have := hprefix k
    omega
  rintro i (hb' | hb')
  · have hb : source[i]? = some openByte := by simpa using hb'
    have hi := hsuffix i
    rw [count_drop hb, count_drop hb, if_pos rfl, if_neg openByte_ne_closeByte] at hi
    rw [partnerOf?_open hb', ← Option.isSome_iff_ne_none]
    exact (isSome_findClose_iff fun k _ => hsuffix k).mpr (by omega)
  · have hb : source[i]? = some closeByte := by simpa using hb'
    have hi := hprefix (i + 1)
    rw [count_take_succ hb, count_take_succ hb, if_pos rfl, if_neg openByte_ne_closeByte.symm] at hi
    rw [partnerOf?_close hb', ← Option.isSome_iff_ne_none]
    exact (isSome_findOpen_iff fun k _ => hprefix k).mpr (by omega)

end AllPaired

/-- **Every bracket has a partner exactly when the program is balanced.** -/
theorem all_paired_iff_balanced (source : Bytes) :
    AllPaired source.toArray ↔ Balanced source :=
  ⟨balanced_of_paired, paired_of_balanced⟩

/-- In a listing: no bracket is unmatched exactly when the program is balanced. -/
theorem listing_paired_iff_balanced (source : Bytes) :
    (∀ e ∈ listing source, e.command = openByte ∨ e.command = closeByte → e.partner ≠ none) ↔
      Balanced source := by
  rw [← all_paired_iff_balanced]
  constructor
  · intro h i hb
    have hentry : ∃ b, source[i]? = some b ∧ (b = openByte ∨ b = closeByte) := by
      rw [← List.getElem?_toArray]
      rcases hb with hb | hb
      · exact ⟨_, hb, .inl rfl⟩
      · exact ⟨_, hb, .inr rfl⟩
    obtain ⟨b, hb, hbracket⟩ := hentry
    have hcommand : isCommand b = true := by
      rcases hbracket with rfl | rfl <;> decide
    have hmem : ⟨i, b, partnerOf? source.toArray i⟩ ∈ listing source :=
      (mem_listing_at_iff hb hcommand _).mpr rfl
    exact h _ hmem hbracket
  · intro h e he hbracket
    obtain ⟨hb, -, hp⟩ := (mem_listing_iff source e).mp he
    rw [hp]
    refine h e.index ?_
    rw [List.getElem?_toArray, hb]
    exact hbracket.imp (congrArg some) (congrArg some)

end TapeDeck
