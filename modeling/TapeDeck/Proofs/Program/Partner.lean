import Mathlib.Tactic.ByContra
import Mathlib.Tactic.SplitIfs
import TapeDeck.Program.Listing

/-!
# The table of partners and the scans agree

The machine looks for the partner of a bracket with a scan (`closeOf?`, `openOf?`) when it has to
jump; a listing reads it from a table that one pass with a stack fills (`partners`). `partnerOf?`
is the answer of the scan that fits the byte at a position, and the two agree at every position of
every program, balanced or not.

The stack of the pass is not an invention of its own: before position `i`, its entry at depth `d`
is exactly what the backward scan from `i` finds at depth `d` (`PassAt.stack_eq`). So a closing
bracket is entered with the partner that the backward scan finds. An opening bracket on the stack
at depth `d` waits for what the forward scan from `i` finds at depth `d`
(`partner?_matchBrackets_open`).

Results:
* `partner?_partners`: the table holds the answer of the scans, position by position.
* `mem_listing_iff`: the entries of a listing are the commands of the program with those answers.
-/

namespace TapeDeck

/-- The partner of the bracket at `i`, by the scan in the direction in which it jumps. -/
def partnerOf? (code : Code) (i : Nat) : Option Nat :=
  if code[i]? = some openByte then closeOf? code i
  else if code[i]? = some closeByte then openOf? code i
  else none

theorem openByte_ne_closeByte : openByte ≠ closeByte := by decide

theorem ne_close_of_open {code : Code} {i : Nat} (h : code[i]? = some openByte) :
    code[i]? ≠ some closeByte := by
  rw [h]
  exact fun e => openByte_ne_closeByte (Option.some.inj e)

theorem getElem?_ne_of_ne {code : Code} {i : Nat} {b c : UInt8} (hb : code[i]? = some b)
    (h : b ≠ c) : code[i]? ≠ some c := by
  rw [hb]
  exact fun e => h (Option.some.inj e)

theorem getElem?_of_toArray {source : Bytes} {i : Nat} {b : UInt8} (hi : i < source.toArray.size)
    (hb : source.toArray[i] = b) : source[i]? = some b := by
  rw [← List.getElem?_toArray, Array.getElem?_eq_getElem hi, hb]

theorem partnerOf?_open {code : Code} {i : Nat} (h : code[i]? = some openByte) :
    partnerOf? code i = closeOf? code i :=
  if_pos h

theorem partnerOf?_close {code : Code} {i : Nat} (h : code[i]? = some closeByte) :
    partnerOf? code i = openOf? code i := by
  rw [partnerOf?, if_neg fun ho => ne_close_of_open ho h, if_pos h]

theorem partnerOf?_plain {code : Code} {i : Nat} (ho : code[i]? ≠ some openByte)
    (hc : code[i]? ≠ some closeByte) : partnerOf? code i = none := by
  rw [partnerOf?, if_neg ho, if_neg hc]

/-! ## The forward scan, byte by byte -/

section Forward

variable {code : Code} {i d : Nat}

theorem findClose_end (h : code[i]? = none) : findClose code d i = none := by
  have hi : ¬ i < code.size := by simpa using h
  rw [findClose.eq_def, dif_neg hi]

theorem findClose_open (h : code[i]? = some openByte) :
    findClose code d i = findClose code (d + 1) (i + 1) := by
  obtain ⟨hi, hb⟩ := Array.getElem?_eq_some_iff.mp h
  rw [findClose.eq_def, dif_pos hi, if_pos hb]

theorem findClose_close_zero (h : code[i]? = some closeByte) : findClose code 0 i = some i := by
  obtain ⟨hi, hb⟩ := Array.getElem?_eq_some_iff.mp h
  rw [findClose.eq_def, dif_pos hi, if_neg (by rw [hb]; exact openByte_ne_closeByte.symm),
    if_pos hb]

theorem findClose_close_succ (h : code[i]? = some closeByte) :
    findClose code (d + 1) i = findClose code d (i + 1) := by
  obtain ⟨hi, hb⟩ := Array.getElem?_eq_some_iff.mp h
  rw [findClose.eq_def, dif_pos hi, if_neg (by rw [hb]; exact openByte_ne_closeByte.symm),
    if_pos hb]

theorem findClose_plain {b : UInt8} (h : code[i]? = some b) (ho : b ≠ openByte)
    (hc : b ≠ closeByte) : findClose code d i = findClose code d (i + 1) := by
  obtain ⟨hi, rfl⟩ := Array.getElem?_eq_some_iff.mp h
  rw [findClose.eq_def, dif_pos hi, if_neg ho, if_neg hc]

theorem le_of_findClose {j : Nat} (h : findClose code d i = some j) : i ≤ j := by
  fun_induction findClose code d i with
  | case1 d i hi hb ih =>
    have := ih h
    omega
  | case2 i hi ho hc => exact Nat.le_of_eq (Option.some.inj h)
  | case3 i hi ho hc d ih =>
    have := ih h
    omega
  | case4 d i hi ho hc ih =>
    have := ih h
    omega
  | case5 => exact absurd h nofun

theorem lt_size_of_findClose {j : Nat} (h : findClose code d i = some j) : j < code.size := by
  fun_induction findClose code d i with
  | case1 d i hi hb ih => exact ih h
  | case2 i hi ho hc =>
    obtain rfl := Option.some.inj h
    exact hi
  | case3 i hi ho hc d ih => exact ih h
  | case4 d i hi ho hc ih => exact ih h
  | case5 => exact absurd h nofun

end Forward

/-! ## The backward scan, byte by byte -/

section Backward

variable {code : Code} {i d : Nat}

theorem findOpen_succ : findOpen code d (i + 1) =
    if code[i]? = some closeByte then findOpen code (d + 1) i
    else if code[i]? = some openByte then
      match d with
      | 0 => some i
      | d + 1 => findOpen code d i
    else findOpen code d i :=
  findOpen.eq_def code d (i + 1)

theorem findOpen_close (h : code[i]? = some closeByte) :
    findOpen code d (i + 1) = findOpen code (d + 1) i := by
  rw [findOpen_succ, if_pos h]

theorem findOpen_open_zero (h : code[i]? = some openByte) : findOpen code 0 (i + 1) = some i := by
  rw [findOpen_succ, if_neg (ne_close_of_open h), if_pos h]

theorem findOpen_open_succ (h : code[i]? = some openByte) :
    findOpen code (d + 1) (i + 1) = findOpen code d i := by
  rw [findOpen_succ, if_neg (ne_close_of_open h), if_pos h]

theorem findOpen_plain (ho : code[i]? ≠ some openByte) (hc : code[i]? ≠ some closeByte) :
    findOpen code d (i + 1) = findOpen code d i := by
  rw [findOpen_succ, if_neg hc, if_neg ho]

theorem lt_of_findOpen {j : Nat} (h : findOpen code d i = some j) : j < i := by
  fun_induction findOpen code d i with
  | case1 => exact absurd h nofun
  | case2 d i hb ih =>
    have := ih h
    omega
  | case3 i ho hc =>
    have := Option.some.inj h
    omega
  | case4 i ho hc d ih =>
    have := ih h
    omega
  | case5 d i ho hc ih =>
    have := ih h
    omega

end Backward

/-- Only brackets have partners. -/
theorem bracket_of_partnerOf? {code : Code} {i j : Nat} (h : partnerOf? code i = some j) :
    code[i]? = some openByte ∨ code[i]? = some closeByte := by
  by_contra hn
  obtain ⟨ho, hc⟩ := not_or.mp hn
  rw [partnerOf?_plain ho hc] at h
  exact absurd h nofun

/-- A partner is a position of the program. -/
theorem lt_size_of_partnerOf? {code : Code} {i j : Nat} (h : partnerOf? code i = some j) :
    j < code.size := by
  rcases bracket_of_partnerOf? h with ho | hc
  · rw [partnerOf?_open ho] at h
    exact lt_size_of_findClose h
  · rw [partnerOf?_close hc] at h
    have hj : j < i := lt_of_findOpen h
    have hi : i < code.size := (Array.getElem?_eq_some_iff.mp hc).1
    omega

/-- What the forward scan finds is a closing bracket. -/
theorem getElem?_of_findClose {code : Code} {d i j : Nat} (h : findClose code d i = some j) :
    code[j]? = some closeByte := by
  fun_induction findClose code d i with
  | case1 d i hi hb ih => exact ih h
  | case2 i hi ho hc =>
    obtain rfl := Option.some.inj h
    rw [Array.getElem?_eq_getElem hi, hc]
  | case3 i hi ho hc d ih => exact ih h
  | case4 d i hi ho hc ih => exact ih h
  | case5 => exact absurd h nofun

/-- What the backward scan finds is an opening bracket. -/
theorem getElem?_of_findOpen {code : Code} {d i j : Nat} (h : findOpen code d i = some j) :
    code[j]? = some openByte := by
  fun_induction findOpen code d i with
  | case1 => exact absurd h nofun
  | case2 d i hb ih => exact ih h
  | case3 i hc ho =>
    obtain rfl := Option.some.inj h
    exact ho
  | case4 i hc ho d ih => exact ih h
  | case5 d i hc ho ih => exact ih h

/-- The partner of a bracket is a bracket of the other kind. -/
theorem getElem?_partnerOf? {code : Code} {i j : Nat} (h : partnerOf? code i = some j) :
    (code[i]? = some openByte ∧ code[j]? = some closeByte) ∨
      (code[i]? = some closeByte ∧ code[j]? = some openByte) := by
  rcases bracket_of_partnerOf? h with ho | hc
  · rw [partnerOf?_open ho] at h
    exact .inl ⟨ho, getElem?_of_findClose h⟩
  · rw [partnerOf?_close hc] at h
    exact .inr ⟨hc, getElem?_of_findOpen h⟩

/-- No bracket is its own partner. -/
theorem partnerOf?_ne_self (code : Code) (i : Nat) : partnerOf? code i ≠ some i := by
  unfold partnerOf?
  split_ifs with ho hc
  · exact fun h => absurd (le_of_findClose h) (by omega)
  · exact fun h => absurd (lt_of_findOpen h) (by omega)
  · exact nofun

/-! ## The pass that fills the table -/

theorem PartnerTable.partner?_pair_left {t : PartnerTable} {i j : Nat} (hi : i < t.size)
    (hij : i ≠ j) : (t.pair i j).partner? i = some j := by
  unfold PartnerTable.pair PartnerTable.partner?
  rw [Array.getElem?_setIfInBounds_ne hij.symm, Array.getElem?_setIfInBounds_self_of_lt hi]
  rfl

theorem PartnerTable.partner?_pair_right {t : PartnerTable} {i j : Nat} (hj : j < t.size) :
    (t.pair i j).partner? j = some i := by
  unfold PartnerTable.pair PartnerTable.partner?
  rw [Array.getElem?_setIfInBounds_self_of_lt (by simpa using hj)]
  rfl

theorem PartnerTable.partner?_pair_of_ne {t : PartnerTable} {i j k : Nat} (hi : k ≠ i)
    (hj : k ≠ j) : (t.pair i j).partner? k = t.partner? k := by
  unfold PartnerTable.pair PartnerTable.partner?
  rw [Array.getElem?_setIfInBounds_ne hj.symm, Array.getElem?_setIfInBounds_ne hi.symm]

theorem PartnerTable.size_pair (t : PartnerTable) (i j : Nat) : (t.pair i j).size = t.size := by
  simp [PartnerTable.pair]

/-- The bytes `rest` are those of `code` from position `i` on. -/
def TailAt (code : Code) (i : Nat) (rest : Bytes) : Prop :=
  code.toList.drop i = rest

theorem TailAt.getElem?_nil {code : Code} {i : Nat} (h : TailAt code i []) : code[i]? = none := by
  have := List.drop_eq_nil_iff.mp h
  simpa using this

theorem TailAt.getElem?_cons {code : Code} {i : Nat} {b : UInt8} {rest : Bytes}
    (h : TailAt code i (b :: rest)) : code[i]? = some b := by
  have : (code.toList.drop i)[0]? = some b := by rw [h]; rfl
  simpa using this

theorem TailAt.tail {code : Code} {i : Nat} {b : UInt8} {rest : Bytes}
    (h : TailAt code i (b :: rest)) : TailAt code (i + 1) rest := by
  unfold TailAt at h ⊢
  rw [← List.tail_drop, h]
  rfl

/-- Positions that are behind the pass and off the stack keep what the table says of them. -/
theorem partner?_matchBrackets_keep {k : Nat} :
    ∀ (rest : Bytes) (i : Nat) (stack : List Nat) (t : PartnerTable), k < i → k ∉ stack →
      (matchBrackets rest i stack t).partner? k = t.partner? k
  | [], _, _, _, _, _ => rfl
  | b :: rest, i, stack, t, hk, hs => by
    unfold matchBrackets
    split_ifs with ho hc
    · refine partner?_matchBrackets_keep rest (i + 1) (i :: stack) t (by omega) ?_
      exact List.not_mem_cons_of_ne_of_not_mem (by omega) hs
    · cases stack with
      | nil => exact partner?_matchBrackets_keep rest (i + 1) [] t (by omega) hs
      | cons o stack =>
        obtain ⟨hne, hs'⟩ := List.ne_and_not_mem_of_not_mem_cons hs
        have := partner?_matchBrackets_keep rest (i + 1) stack (t.pair o i) (by omega) hs'
        rw [PartnerTable.partner?_pair_of_ne hne (by omega)] at this
        exact this
    · exact partner?_matchBrackets_keep rest (i + 1) stack t (by omega) hs

/-- **What an open bracket waits for.** A bracket on the stack below `inner.length` others is
entered with what the forward scan finds at that depth. -/
theorem partner?_matchBrackets_open {code : Code} {o : Nat} :
    ∀ (rest : Bytes) (i : Nat) (inner outer : List Nat) (t : PartnerTable), TailAt code i rest →
      o < i → o ∉ inner → o ∉ outer → o < t.size → t.partner? o = none →
      (matchBrackets rest i (inner ++ o :: outer) t).partner? o = findClose code inner.length i
  | [], i, inner, outer, t, htail, _, _, _, _, hnone => by
    rw [findClose_end htail.getElem?_nil]
    exact hnone
  | b :: rest, i, inner, outer, t, htail, hi, hin, hout, ht, hnone => by
    have hb := htail.getElem?_cons
    unfold matchBrackets
    split_ifs with ho hc
    · rw [findClose_open (by rw [hb, ho])]
      refine partner?_matchBrackets_open rest (i + 1) (i :: inner) outer t htail.tail (by omega)
        ?_ hout ht hnone
      exact List.not_mem_cons_of_ne_of_not_mem (by omega) hin
    · have hclose : code[i]? = some closeByte := by rw [hb, hc]
      cases inner with
      | nil =>
        -- the bracket itself is closed here, and nothing later touches its entry
        rw [List.length_nil, findClose_close_zero hclose]
        have := partner?_matchBrackets_keep rest (i + 1) outer (t.pair o i) (k := o) (by omega) hout
        rw [PartnerTable.partner?_pair_left ht (by omega)] at this
        exact this
      | cons o' inner =>
        obtain ⟨hne, hin'⟩ := List.ne_and_not_mem_of_not_mem_cons hin
        rw [List.length_cons, findClose_close_succ hclose]
        refine partner?_matchBrackets_open rest (i + 1) inner outer (t.pair o' i) htail.tail
          (by omega) hin' hout (by rw [PartnerTable.size_pair]; exact ht) ?_
        rw [PartnerTable.partner?_pair_of_ne hne (by omega)]
        exact hnone
    · rw [findClose_plain hb ho hc]
      exact partner?_matchBrackets_open rest (i + 1) inner outer t htail.tail (by omega) hin hout ht
        hnone

/-- The pass before position `i`: the stack is what the backward scan finds, depth by depth, and
nothing is entered yet for the positions to come. -/
structure PassAt (code : Code) (i : Nat) (stack : List Nat) (t : PartnerTable) : Prop where
  stack_eq : ∀ d, stack[d]? = findOpen code d i
  behind : ∀ o ∈ stack, o < i
  size_eq : t.size = code.size
  fresh : ∀ k, i ≤ k → t.partner? k = none

namespace PassAt

variable {code : Code} {i : Nat} {stack : List Nat} {t : PartnerTable}

theorem init (code : Code) : PassAt code 0 [] (Array.replicate code.size none) where
  stack_eq d := by rw [findOpen]; rfl
  behind o ho := absurd ho List.not_mem_nil
  size_eq := Array.size_replicate
  fresh k _ := by
    unfold PartnerTable.partner?
    rw [Array.getElem?_replicate]
    split <;> rfl

theorem push (h : PassAt code i stack t) (ho : code[i]? = some openByte) :
    PassAt code (i + 1) (i :: stack) t where
  stack_eq d := by
    cases d with
    | zero => rw [findOpen_open_zero ho]; rfl
    | succ d => rw [findOpen_open_succ ho, ← h.stack_eq d]; rfl
  behind o hmem := by
    rcases List.mem_cons.mp hmem with rfl | hmem
    · omega
    · have := h.behind o hmem
      omega
  size_eq := h.size_eq
  fresh k hk := h.fresh k (by omega)

theorem stray (h : PassAt code i [] t) (hc : code[i]? = some closeByte) :
    PassAt code (i + 1) [] t where
  stack_eq d := by
    rw [findOpen_close hc, ← h.stack_eq (d + 1)]
    rfl
  behind o hmem := absurd hmem List.not_mem_nil
  size_eq := h.size_eq
  fresh k hk := h.fresh k (by omega)

theorem pop {o : Nat} (h : PassAt code i (o :: stack) t) (hc : code[i]? = some closeByte) :
    PassAt code (i + 1) stack (t.pair o i) where
  stack_eq d := by
    rw [findOpen_close hc, ← h.stack_eq (d + 1)]
    rfl
  behind o' hmem := by
    have := h.behind o' (List.mem_cons_of_mem o hmem)
    omega
  size_eq := by rw [PartnerTable.size_pair, h.size_eq]
  fresh k hk := by
    have := h.behind o List.mem_cons_self
    rw [PartnerTable.partner?_pair_of_ne (by omega) (by omega)]
    exact h.fresh k (by omega)

theorem skip (h : PassAt code i stack t) (ho : code[i]? ≠ some openByte)
    (hc : code[i]? ≠ some closeByte) : PassAt code (i + 1) stack t where
  stack_eq d := by rw [findOpen_plain ho hc, h.stack_eq d]
  behind o hmem := by
    have := h.behind o hmem
    omega
  size_eq := h.size_eq
  fresh k hk := h.fresh k (by omega)

end PassAt

/-- The position that the pass has come to is entered with the answer of its scan. -/
theorem partner?_matchBrackets_here {code : Code} {b : UInt8} {rest : Bytes} {i : Nat}
    {stack : List Nat} {t : PartnerTable} (htail : TailAt code i (b :: rest))
    (hpass : PassAt code i stack t) :
    (matchBrackets (b :: rest) i stack t).partner? i = partnerOf? code i := by
  have hb := htail.getElem?_cons
  have hi : i < t.size := by
    rw [hpass.size_eq]
    exact (Array.getElem?_eq_some_iff.mp hb).1
  have hstack : i ∉ stack := fun hmem => absurd (hpass.behind i hmem) (by omega)
  have hfresh : t.partner? i = none := hpass.fresh i (Nat.le_refl i)
  unfold matchBrackets
  split_ifs with ho hc
  · -- an opening bracket waits on the stack for what the forward scan finds
    rw [partnerOf?_open (by rw [hb, ho])]
    exact partner?_matchBrackets_open rest (i + 1) [] stack t htail.tail (by omega)
      List.not_mem_nil hstack hi hfresh
  · -- a closing bracket takes the top of the stack, which the backward scan finds
    have hopenOf : openOf? code i = stack[0]? := (hpass.stack_eq 0).symm
    rw [partnerOf?_close (by rw [hb, hc]), hopenOf]
    cases stack with
    | nil =>
      simp only
      rw [partner?_matchBrackets_keep rest (i + 1) [] t (by omega) hstack]
      exact hfresh
    | cons o stack =>
      have := partner?_matchBrackets_keep rest (i + 1) stack (t.pair o i) (k := i) (by omega)
        (List.not_mem_of_not_mem_cons hstack)
      rw [PartnerTable.partner?_pair_right hi] at this
      exact this
  · rw [partnerOf?_plain (getElem?_ne_of_ne hb ho) (getElem?_ne_of_ne hb hc),
      partner?_matchBrackets_keep rest (i + 1) stack t (by omega) hstack]
    exact hfresh

/-- The positions still to come are entered with the answer of their scan. -/
theorem partner?_matchBrackets_of_le {code : Code} {k : Nat} :
    ∀ (rest : Bytes) (i : Nat) (stack : List Nat) (t : PartnerTable), TailAt code i rest →
      PassAt code i stack t → i ≤ k →
      (matchBrackets rest i stack t).partner? k = partnerOf? code k
  | [], i, stack, t, htail, hpass, hk => by
    have hend : code[k]? = none := by
      have := htail.getElem?_nil
      simp only [Array.getElem?_eq_none_iff] at this ⊢
      omega
    rw [partnerOf?_plain (by simp [hend]) (by simp [hend])]
    exact hpass.fresh k hk
  | b :: rest, i, stack, t, htail, hpass, hk => by
    have hb := htail.getElem?_cons
    rcases Nat.eq_or_lt_of_le hk with rfl | hlt
    · exact partner?_matchBrackets_here htail hpass
    · unfold matchBrackets
      split_ifs with ho hc
      · exact partner?_matchBrackets_of_le rest (i + 1) (i :: stack) t htail.tail
          (hpass.push (by rw [hb, ho])) hlt
      · have hclose : code[i]? = some closeByte := by rw [hb, hc]
        cases stack with
        | nil =>
          exact partner?_matchBrackets_of_le rest (i + 1) [] t htail.tail (hpass.stray hclose) hlt
        | cons o stack =>
          exact partner?_matchBrackets_of_le rest (i + 1) stack (t.pair o i) htail.tail
            (hpass.pop hclose) hlt
      · exact partner?_matchBrackets_of_le rest (i + 1) stack t htail.tail
          (hpass.skip (getElem?_ne_of_ne hb ho) (getElem?_ne_of_ne hb hc)) hlt

/-- **The table is the scans.** At every position of every program, balanced or not, the table of
partners holds what the scan from that position answers. -/
theorem partner?_partners (source : Bytes) (k : Nat) :
    (partners source).partner? k = partnerOf? source.toArray k := by
  have hinit := PassAt.init source.toArray
  rw [List.size_toArray] at hinit
  exact partner?_matchBrackets_of_le source 0 [] _ rfl hinit (Nat.zero_le k)

/-! ## Listings -/

theorem listingFrom_eq_filterMap (table : PartnerTable) :
    ∀ (bs : Bytes) (i : Nat), listingFrom table bs i =
      (bs.zipIdx i).filterMap fun (b, k) =>
        if isCommand b then some ⟨k, b, table.partner? k⟩ else none
  | [], _ => rfl
  | b :: rest, i => by
    rw [listingFrom, List.zipIdx_cons, List.filterMap_cons,
      listingFrom_eq_filterMap table rest (i + 1)]
    by_cases hb : isCommand b = true
    · simp only [hb, if_true]
    · simp only [hb, if_false, Bool.false_eq_true]

/-- The entries of a listing are the commands of the program, each with the answer of its scan. -/
theorem mem_listing_iff (source : Bytes) (e : Entry) :
    e ∈ listing source ↔ source[e.index]? = some e.command ∧ isCommand e.command = true ∧
      e.partner = partnerOf? source.toArray e.index := by
  unfold listing
  rw [listingFrom_eq_filterMap, List.mem_filterMap]
  constructor
  · rintro ⟨⟨b, k⟩, hmem, he⟩
    rw [List.mk_mem_zipIdx_iff_getElem?] at hmem
    simp only [Option.ite_none_right_eq_some, Option.some.injEq] at he
    obtain ⟨hb, rfl⟩ := he
    exact ⟨hmem, hb, partner?_partners source k⟩
  · rintro ⟨hmem, hb, hp⟩
    refine ⟨(e.command, e.index), List.mk_mem_zipIdx_iff_getElem?.mpr hmem, ?_⟩
    simp only [hb, if_true, partner?_partners, ← hp]

/-- The entry of a command is in the listing with the answer of its scan, and with no other. -/
theorem mem_listing_at_iff {source : Bytes} {i : Nat} {b : UInt8} (hb : source[i]? = some b)
    (hc : isCommand b = true) (partner : Option Nat) :
    ⟨i, b, partner⟩ ∈ listing source ↔ partnerOf? source.toArray i = partner := by
  rw [mem_listing_iff]
  exact ⟨fun h => h.2.2.symm, fun h => ⟨hb, hc, h.symm⟩⟩

/-- The partner that a listing gives for a position is the answer of its scan. -/
theorem exists_mem_listing_iff (source : Bytes) (i j : Nat) :
    (∃ b, ⟨i, b, some j⟩ ∈ listing source) ↔ partnerOf? source.toArray i = some j := by
  constructor
  · rintro ⟨b, hmem⟩
    exact ((mem_listing_iff source _).mp hmem).2.2.symm
  · intro hj
    obtain ⟨b, hb, hc⟩ : ∃ b, source[i]? = some b ∧ isCommand b = true := by
      rw [← List.getElem?_toArray]
      rcases bracket_of_partnerOf? hj with ho | hc
      · exact ⟨openByte, ho, by decide⟩
      · exact ⟨closeByte, hc, by decide⟩
    exact ⟨b, (mem_listing_at_iff hb hc _).mpr hj⟩

end TapeDeck
