import TapeDeck.Proofs.Program.Partner

/-!
# Balanced programs as trees

A `Tree` is a list of items, each of them a byte that is no bracket or a loop over another tree;
`Tree.source` writes it out with the brackets of its loops. The scans know nothing of trees. What
ties them to the tree is that a scan which crosses a whole tree comes out at the depth it came in
with, in both directions (`findClose_source`, `findOpen_source`). So from the bracket of a loop each
scan goes over the body and stops at the other bracket (`closeOf?_loop`, `openOf?_loop`).
-/

namespace TapeDeck

/-- A balanced program: a list of items, each a byte that is no bracket or a loop. -/
inductive Tree where
  | nil
  | byte (b : UInt8) (not_open : b ≠ openByte) (not_close : b ≠ closeByte) (rest : Tree)
  | loop (body rest : Tree)

/-- The bytes of a tree. -/
def Tree.source : Tree → Bytes
  | nil => []
  | byte b _ _ rest => b :: rest.source
  | loop body rest => openByte :: (body.source ++ closeByte :: rest.source)

/-- The number of bytes of a tree. -/
def Tree.size (P : Tree) : Nat := P.source.length

theorem Tree.add_size_byte {b : UInt8} {ho : b ≠ openByte} {hc : b ≠ closeByte} {rest : Tree}
    (i : Nat) : i + (Tree.byte b ho hc rest).size = i + 1 + rest.size := by
  simp only [size, source, List.length_cons]
  omega

theorem Tree.add_size_loop {body rest : Tree} (i : Nat) :
    i + (Tree.loop body rest).size = i + 1 + body.size + 1 + rest.size := by
  simp only [size, source, List.length_cons, List.length_append]
  omega

theorem TailAt.append {code : Code} {i : Nat} {xs ys : Bytes} (h : TailAt code i (xs ++ ys)) :
    TailAt code (i + xs.length) ys := by
  unfold TailAt at h ⊢
  rw [← List.drop_drop, h, List.drop_left]

/-- The bytes of `code` from position `i` on start with those of the tree `P`. -/
def HasTree (code : Code) (i : Nat) (P : Tree) : Prop :=
  ∃ suffix, TailAt code i (P.source ++ suffix)

section HasTree

variable {code : Code} {i : Nat} {body rest : Tree}

theorem hasTree_source (P : Tree) : HasTree P.source.toArray 0 P :=
  ⟨[], by rw [List.append_nil]; rfl⟩

theorem HasTree.byte_getElem? {b : UInt8} {ho : b ≠ openByte} {hc : b ≠ closeByte}
    (h : HasTree code i (.byte b ho hc rest)) : code[i]? = some b := by
  obtain ⟨suffix, h⟩ := h
  exact h.getElem?_cons

theorem HasTree.byte_rest {b : UInt8} {ho : b ≠ openByte} {hc : b ≠ closeByte}
    (h : HasTree code i (.byte b ho hc rest)) : HasTree code (i + 1) rest := by
  obtain ⟨suffix, h⟩ := h
  exact ⟨suffix, h.tail⟩

theorem HasTree.loop_open (h : HasTree code i (.loop body rest)) :
    code[i]? = some openByte := by
  obtain ⟨suffix, h⟩ := h
  exact h.getElem?_cons

theorem HasTree.loop_body (h : HasTree code i (.loop body rest)) :
    HasTree code (i + 1) body := by
  obtain ⟨suffix, h⟩ := h
  refine ⟨closeByte :: rest.source ++ suffix, ?_⟩
  rw [← List.append_assoc]
  exact h.tail

/-- What follows the body of a loop: its closing bracket, and the rest. -/
theorem HasTree.loop_tail (h : HasTree code i (.loop body rest)) :
    ∃ suffix, TailAt code (i + 1 + body.size) (closeByte :: (rest.source ++ suffix)) := by
  obtain ⟨suffix, h⟩ := h
  have h' : TailAt code (i + 1) (body.source ++ (closeByte :: (rest.source ++ suffix))) := by
    rw [← List.cons_append, ← List.append_assoc]
    exact h.tail
  exact ⟨suffix, h'.append⟩

theorem HasTree.loop_close (h : HasTree code i (.loop body rest)) :
    code[i + 1 + body.size]? = some closeByte := by
  obtain ⟨suffix, h⟩ := h.loop_tail
  exact h.getElem?_cons

theorem HasTree.loop_rest (h : HasTree code i (.loop body rest)) :
    HasTree code (i + 1 + body.size + 1) rest := by
  obtain ⟨suffix, h⟩ := h.loop_tail
  exact ⟨suffix, h.tail⟩

end HasTree

/-! ## Scans across a tree -/

theorem findClose_source {code : Code} (P : Tree) :
    ∀ {i : Nat} (d : Nat), HasTree code i P →
      findClose code d i = findClose code d (i + P.size) := by
  induction P with
  | nil => exact fun _ _ => rfl
  | byte b ho hc rest ih =>
    intro i d h
    rw [findClose_plain h.byte_getElem? ho hc, ih d h.byte_rest, Tree.add_size_byte]
  | loop body rest ihBody ihRest =>
    intro i d h
    rw [findClose_open h.loop_open, ihBody (d + 1) h.loop_body, findClose_close_succ h.loop_close,
      ihRest d h.loop_rest, Tree.add_size_loop]

theorem findOpen_source {code : Code} (P : Tree) :
    ∀ {i : Nat} (d : Nat), HasTree code i P →
      findOpen code d (i + P.size) = findOpen code d i := by
  induction P with
  | nil => exact fun _ _ => rfl
  | byte b ho hc rest ih =>
    intro i d h
    have hb := h.byte_getElem?
    rw [Tree.add_size_byte, ih d h.byte_rest]
    exact findOpen_plain (getElem?_ne_of_ne hb ho) (getElem?_ne_of_ne hb hc)
  | loop body rest ihBody ihRest =>
    intro i d h
    rw [Tree.add_size_loop, ihRest d h.loop_rest, findOpen_close h.loop_close,
      ihBody (d + 1) h.loop_body, findOpen_open_succ h.loop_open]

/-- **The forward scan from a loop finds its end.** -/
theorem closeOf?_loop {code : Code} {i : Nat} {body rest : Tree}
    (h : HasTree code i (.loop body rest)) : closeOf? code i = some (i + 1 + body.size) := by
  unfold closeOf?
  rw [findClose_source body 0 h.loop_body, findClose_close_zero h.loop_close]

/-- **The backward scan from the end of a loop finds its start.** -/
theorem openOf?_loop {code : Code} {i : Nat} {body rest : Tree}
    (h : HasTree code i (.loop body rest)) : openOf? code (i + 1 + body.size) = some i := by
  unfold openOf?
  rw [findOpen_source body 0 h.loop_body, findOpen_open_zero h.loop_open]

/-! ## Brackets that belong to no loop -/

/-- No loop that is written in the program starts or ends at `i`. -/
def Unpaired (code : Code) (i : Nat) : Prop :=
  ∀ (k : Nat) (body : Tree), HasTree code k (.loop body .nil) → i ≠ k ∧ i ≠ k + 1 + body.size

/-- A bracket whose scan fails belongs to no loop. -/
theorem unpaired_of_partnerOf? {code : Code} {i : Nat} (h : partnerOf? code i = none) :
    Unpaired code i := by
  intro k body ht
  constructor
  · rintro rfl
    rw [partnerOf?_open ht.loop_open, closeOf?_loop ht] at h
    exact absurd h nofun
  · rintro rfl
    rw [partnerOf?_close ht.loop_close, openOf?_loop ht] at h
    exact absurd h nofun

end TapeDeck
