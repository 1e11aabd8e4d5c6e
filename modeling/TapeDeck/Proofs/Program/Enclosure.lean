import TapeDeck.Proofs.Program.Matching

/-!
# What stands between a bracket and its partner

A scan counts brackets and stops where its count runs out. `Encloses` says without counting what it
looks for: an opening bracket, a closing one behind it, and between the two a balanced piece of the
program. A balanced piece is the source of a tree (`balanced_iff_exists_tree`), so such a pair is a
loop that is written in the program, and the other way round (`loopAt_iff_encloses`). What is known
of loops then says what either scan finds, wherever it starts and whatever stands outside the pair.

**`scans_find_balanced_partner`**: each scan finds the one partner that a bracket has, fails exactly
where there is none, and the two scans are each other's inverse.
-/

namespace TapeDeck

/-- The bytes strictly between two positions. -/
def between (source : Bytes) (i j : Nat) : Bytes :=
  (source.take j).drop (i + 1)

/-- An opening and a closing bracket with a balanced piece of the program between them. -/
structure Encloses (source : Bytes) (i j : Nat) : Prop where
  lt : i < j
  getElem?_open : source[i]? = some openByte
  getElem?_close : source[j]? = some closeByte
  balanced : Balanced (between source i j)

section Between

variable {source : Bytes} {i j : Nat} {b c : UInt8}

/-- What follows a position, cut at a later one. -/
theorem drop_eq_between (hij : i < j) (hb : source[i]? = some b) (hc : source[j]? = some c) :
    source.drop i = b :: (between source i j ++ c :: source.drop (j + 1)) := by
  obtain ⟨hi, rfl⟩ := List.getElem?_eq_some_iff.mp hb
  obtain ⟨hj, rfl⟩ := List.getElem?_eq_some_iff.mp hc
  have hrest : (source.drop (i + 1)).drop (j - (i + 1)) = source.drop j := by
    rw [List.drop_drop]
    congr 1
    omega
  rw [List.drop_eq_getElem_cons hi, between, List.drop_take, ← List.drop_eq_getElem_cons hj,
    ← hrest, List.take_append_drop]

/-- Bytes that are read behind a position are what stands between it and their end. -/
theorem between_eq {inner suffix : Bytes} (h : source.drop (i + 1) = inner ++ suffix) :
    between source i (i + 1 + inner.length) = inner := by
  rw [between, List.drop_take, h, Nat.add_sub_cancel_left, List.take_left]

end Between

/-- **Balanced bytes are the source of a tree.** -/
theorem balanced_iff_exists_tree (source : Bytes) :
    Balanced source ↔ ∃ P : Tree, P.source = source :=
  (all_paired_iff_balanced source).symm.trans (allPaired_iff_exists_tree source)

/-- **Loops are the pairs of brackets around balanced bytes.** -/
theorem loopAt_iff_encloses {source : Bytes} {i j : Nat} :
    LoopAt source.toArray i j ↔ Encloses source i j := by
  constructor
  · intro h
    have hopen := h.getElem?_open
    have hclose := h.getElem?_close
    rw [List.getElem?_toArray] at hopen hclose
    refine ⟨h.lt, hopen, hclose, ?_⟩
    obtain ⟨body, ht, rfl⟩ := h
    obtain ⟨suffix, hbody⟩ := ht.loop_body
    rw [Tree.size, between_eq hbody]
    exact (balanced_iff_exists_tree _).mpr ⟨body, rfl⟩
  · rintro ⟨hij, hopen, hclose, hbalanced⟩
    obtain ⟨body, hbody⟩ := (balanced_iff_exists_tree _).mp hbalanced
    have hdrop := drop_eq_between hij hopen hclose
    -- the body fills the place between the two brackets
    have hj : j = i + 1 + body.size := by
      have hlt := (List.getElem?_eq_some_iff.mp hclose).1
      rw [Tree.size, hbody, between, List.length_drop, List.length_take]
      omega
    refine ⟨body, ⟨source.drop (j + 1), ?_⟩, hj⟩
    rw [TailAt, hdrop, ← hbody]
    simp [Tree.source]

section Scans

variable {source : Bytes} {i j : Nat}

/-- **What the forward scan finds.** -/
theorem closeOf?_eq_some_iff (ho : source[i]? = some openByte) :
    closeOf? source.toArray i = some j ↔ Encloses source i j := by
  have ho' : source.toArray[i]? = some openByte := by simpa using ho
  rw [← loopAt_iff_encloses]
  constructor
  · exact loopAt_of_closeOf? ho'
  · intro h
    rw [← partnerOf?_open ho']
    exact h.partnerOf?_open

/-- **What the backward scan finds.** -/
theorem openOf?_eq_some_iff (hc : source[j]? = some closeByte) :
    openOf? source.toArray j = some i ↔ Encloses source i j := by
  have hc' : source.toArray[j]? = some closeByte := by simpa using hc
  rw [← loopAt_iff_encloses]
  constructor
  · exact loopAt_of_openOf? hc'
  · intro h
    rw [← partnerOf?_close hc']
    exact h.partnerOf?_close

theorem Encloses.close_unique {k : Nat} (h : Encloses source i j) (h' : Encloses source i k) :
    j = k :=
  (loopAt_iff_encloses.mpr h).close_unique (loopAt_iff_encloses.mpr h')

theorem Encloses.open_unique {k : Nat} (h : Encloses source i k) (h' : Encloses source j k) :
    i = j :=
  (loopAt_iff_encloses.mpr h).open_unique (loopAt_iff_encloses.mpr h')

end Scans

/-- **The scans find the balanced partner**, in every program, balanced or not. From an opening
bracket the forward scan finds `j` exactly when `j` is behind it, holds a closing bracket, and the
brackets between the two form a Dyck word; there is at most one such `j`, and the scan fails exactly
when there is none. The backward scan from a closing bracket is the same the other way, so of an
opening and a closing bracket one scan finds the second exactly when the other finds the first. -/
theorem scans_find_balanced_partner (p : Bytes) :
    (∀ i, p[i]? = some openByte →
      (∀ j, closeOf? p.toArray i = some j ↔ Encloses p i j) ∧
      (∀ j k, Encloses p i j → Encloses p i k → j = k) ∧
      (closeOf? p.toArray i = none ↔ ∀ j, ¬ Encloses p i j)) ∧
    (∀ j, p[j]? = some closeByte →
      (∀ i, openOf? p.toArray j = some i ↔ Encloses p i j) ∧
      (∀ i k, Encloses p i j → Encloses p k j → i = k) ∧
      (openOf? p.toArray j = none ↔ ∀ i, ¬ Encloses p i j)) ∧
    (∀ i j, p[i]? = some openByte → p[j]? = some closeByte →
      (closeOf? p.toArray i = some j ↔ openOf? p.toArray j = some i)) := by
  refine ⟨fun i ho => ?_, fun j hc => ?_, fun i j ho hc => ?_⟩
  · refine ⟨fun j => closeOf?_eq_some_iff ho, fun j k => Encloses.close_unique, ?_⟩
    rw [Option.eq_none_iff_forall_ne_some]
    exact forall_congr' fun j => not_congr (closeOf?_eq_some_iff ho)
  · refine ⟨fun i => openOf?_eq_some_iff hc, fun i k => Encloses.open_unique, ?_⟩
    rw [Option.eq_none_iff_forall_ne_some]
    exact forall_congr' fun i => not_congr (openOf?_eq_some_iff hc)
  · exact (closeOf?_eq_some_iff ho).trans (openOf?_eq_some_iff hc).symm

/-- One loop in another, with a stray closing bracket behind them: the outer two brackets find each
other across the inner ones. -/
theorem scans_find_balanced_partner_nested :
    let p : Bytes := [0x5B, 0x5B, 0x5D, 0x5D, 0x5D]
    closeOf? p.toArray 0 = some 3 ∧ openOf? p.toArray 3 = some 0 := by
  intro p
  obtain ⟨hforward, -, hinverse⟩ := scans_find_balanced_partner p
  have hclose : closeOf? p.toArray 0 = some 3 :=
    ((hforward 0 rfl).1 3).mpr ⟨by decide, rfl, rfl, DyckWord.nest 0, rfl⟩
  exact ⟨hclose, (hinverse 0 3 rfl rfl).mp hclose⟩

end TapeDeck
