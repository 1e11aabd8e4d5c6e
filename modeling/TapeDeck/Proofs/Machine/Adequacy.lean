import TapeDeck.Proofs.Machine.Step
import TapeDeck.Proofs.Program.Tree

/-!
# Stepping a balanced program is running its tree

`Tree.Runs` is the structured reading of a balanced program: bytes act on the store in order, and a
loop runs its body while the current cell is not zero. The machine has no loops, only brackets that
land on one another. The two agree.

* Forward (`Tree.Runs.reaches`): the induction is on the derivation. A loop is taken up again from
  its closing bracket and not from its opening one, so the statement is about both places where a
  machine can stand to run a tree (`Tree.entries`).
* Backward (`Tree.runs_of_halts`): the induction is on the number of steps after which the machine
  is known to be halted. Every item costs at least one step, so what is left of the run, be it the
  body, the next round or the rest, is shorter.

**`step_adequate`**: the machine finishes with a tape and an output exactly when the tree evaluates
to them; it goes on for ever exactly when the tree evaluates to nothing; it never halts on an
unbalanced bracket.
-/

namespace TapeDeck

/-- **The structured semantics.** `P.Runs w w'`: started on the store `w`, the tree `P` ends with
the store `w'`. -/
inductive Tree.Runs : Tree → Store → Store → Prop
  | nil (w : Store) : Runs .nil w w
  | byte {b : UInt8} {ho : b ≠ openByte} {hc : b ≠ closeByte} {rest : Tree} {w w' : Store}
      (next : Runs rest (w.act b) w') : Runs (.byte b ho hc rest) w w'
  | skip {body rest : Tree} {w w' : Store} (zero : w.tape.read = 0) (next : Runs rest w w') :
      Runs (.loop body rest) w w'
  | round {body rest : Tree} {w w₁ w' : Store} (nonzero : w.tape.read ≠ 0)
      (once : Runs body w w₁) (again : Runs (.loop body rest) w₁ w') :
      Runs (.loop body rest) w w'

/-! ## A machine that has not halted -/

namespace Machine

/-- The machine is live at position `i` of `code`, with the store `w`. -/
structure LiveAt (m : Machine) (code : Code) (i : Nat) (w : Store) : Prop where
  code_eq : m.code = code
  index_eq : m.index = i
  store_eq : m.store = w
  live : m.isHalted = false

namespace LiveAt

variable {m : Machine} {code : Code} {i j : Nat} {w : Store}

theorem getElem? (h : m.LiveAt code i w) : m.code[m.index]? = code[i]? := by
  rw [h.code_eq, h.index_eq]

theorem read (h : m.LiveAt code i w) : m.tape.read = w.tape.read := by
  rw [← h.store_eq]
  rfl

theorem advance (h : m.LiveAt code i w) (b : UInt8) :
    (m.advance b).LiveAt code (i + 1) (w.act b) where
  code_eq := h.code_eq
  index_eq := by rw [← h.index_eq]; rfl
  store_eq := by rw [← h.store_eq]; rfl
  live := live_advance h.live b

theorem land (h : m.LiveAt code i w) (j : Nat) : (m.land j).LiveAt code j w where
  code_eq := h.code_eq
  index_eq := rfl
  store_eq := h.store_eq
  live := live_land h.live j

/-- A byte that is no bracket acts on the store. -/
theorem step_byte {b : UInt8} (h : m.LiveAt code i w) (hb : code[i]? = some b)
    (ho : b ≠ openByte) (hc : b ≠ closeByte) : m.step.machine.LiveAt code (i + 1) (w.act b) := by
  have hb' : m.code[m.index]? = some b := h.getElem?.trans hb
  have hs : ¬ m.Scans := by
    rintro (⟨h', -⟩ | ⟨h', -⟩)
    · exact getElem?_ne_of_ne hb' ho h'
    · exact getElem?_ne_of_ne hb' hc h'
  rw [step_of_plain h.live hb' hs]
  exact h.advance b

/-- An opening bracket on a cell that is not zero is passed. -/
theorem step_enter (h : m.LiveAt code i w) (hb : code[i]? = some openByte)
    (hr : w.tape.read ≠ 0) : m.step.machine.LiveAt code (i + 1) w := by
  have hb' : m.code[m.index]? = some openByte := h.getElem?.trans hb
  have hs : ¬ m.Scans := by
    rintro (⟨-, h'⟩ | ⟨h', -⟩)
    · exact hr (h.read.symm.trans h')
    · exact ne_close_of_open hb' h'
  rw [step_of_plain h.live hb' hs]
  exact h.advance openByte

/-- A closing bracket on a zero cell is passed. -/
theorem step_leave (h : m.LiveAt code i w) (hb : code[i]? = some closeByte)
    (hr : w.tape.read = 0) : m.step.machine.LiveAt code (i + 1) w := by
  have hb' : m.code[m.index]? = some closeByte := h.getElem?.trans hb
  have hs : ¬ m.Scans := by
    rintro (⟨h', -⟩ | ⟨-, h'⟩)
    · exact ne_close_of_open h' hb'
    · exact h' (h.read.trans hr)
  rw [step_of_plain h.live hb' hs]
  exact h.advance closeByte

/-- An opening bracket on a zero cell lands on its partner. -/
theorem step_skip (h : m.LiveAt code i w) (hb : code[i]? = some openByte) (hr : w.tape.read = 0)
    (hj : closeOf? code i = some j) : m.step.machine.LiveAt code j w := by
  have hb' : m.code[m.index]? = some openByte := h.getElem?.trans hb
  have hj' : partnerOf? m.code m.index = some j := by
    rw [partnerOf?_open hb', h.code_eq, h.index_eq, hj]
  rw [step_of_partner h.live hb' (.inl ⟨hb', h.read.trans hr⟩) hj']
  exact h.land j

/-- A closing bracket on a cell that is not zero lands on its partner. -/
theorem step_again (h : m.LiveAt code i w) (hb : code[i]? = some closeByte)
    (hr : w.tape.read ≠ 0) (hj : openOf? code i = some j) : m.step.machine.LiveAt code j w := by
  have hb' : m.code[m.index]? = some closeByte := h.getElem?.trans hb
  have hj' : partnerOf? m.code m.index = some j := by
    rw [partnerOf?_close hb', h.code_eq, h.index_eq, hj]
  rw [step_of_partner h.live hb' (.inr ⟨hb', fun h' => hr (h.read.symm.trans h')⟩) hj']
  exact h.land j

/-- At the end of the program the machine finishes, with its store as it is. -/
theorem step_finish (h : m.LiveAt code i w) (he : code[i]? = none) :
    m.step.machine.status = .halted .finished ∧ m.step.machine.store = w := by
  rw [step_of_end h.live (h.getElem?.trans he)]
  exact ⟨rfl, h.store_eq⟩

end LiveAt

/-- The machine comes, live, to position `j` of `code` with the store `w`. -/
def Reaches (m : Machine) (code : Code) (j : Nat) (w : Store) : Prop :=
  ∃ n, (m.stepN n).LiveAt code j w

section Reaches

variable {m : Machine} {code : Code} {i j k : Nat} {w w' : Store}

theorem LiveAt.reaches (h : m.LiveAt code i w) : m.Reaches code i w :=
  ⟨0, h⟩

theorem Reaches.of_step (h : m.step.machine.Reaches code j w) : m.Reaches code j w := by
  obtain ⟨n, hn⟩ := h
  exact ⟨n + 1, hn⟩

theorem Reaches.trans (h : m.Reaches code j w)
    (h' : ∀ m' : Machine, m'.LiveAt code j w → m'.Reaches code k w') : m.Reaches code k w' := by
  obtain ⟨n, hn⟩ := h
  obtain ⟨n', hn'⟩ := h' (m.stepN n) hn
  exact ⟨n + n', by rw [stepN_add]; exact hn'⟩

end Reaches

end Machine

/-! ## From the tree to the machine -/

/-- The positions from which a machine runs a tree that is written at `i`: its first byte, and for a
loop the closing bracket as well, where a round ends and the next one is decided. -/
def Tree.entries (i : Nat) : Tree → List Nat
  | .loop body _ => [i, i + 1 + body.size]
  | _ => [i]

theorem Tree.start_mem_entries (i : Nat) (P : Tree) : i ∈ P.entries i := by
  cases P <;> exact List.mem_cons_self

/-- **A tree that evaluates is run by the machine.** -/
theorem Tree.Runs.reaches {P : Tree} {w w' : Store} (h : P.Runs w w') :
    ∀ {code : Code} {i k : Nat} {m : Machine}, HasTree code i P → k ∈ P.entries i →
      m.LiveAt code k w → m.Reaches code (i + P.size) w' := by
  induction h with
  | nil w =>
    intro code i k m _ hk hm
    obtain rfl := List.mem_singleton.mp hk
    exact hm.reaches
  | @byte b ho hc rest w w' _ ih =>
    intro code i k m ht hk hm
    obtain rfl := List.mem_singleton.mp hk
    have hstep := hm.step_byte ht.byte_getElem? ho hc
    rw [Tree.add_size_byte]
    exact (ih ht.byte_rest (Tree.start_mem_entries _ rest) hstep).of_step
  | @skip body rest w w' zero _ ih =>
    intro code i k m ht hk hm
    -- past the closing bracket, whichever way the machine came to it
    have hclose : ∀ m' : Machine, m'.LiveAt code (i + 1 + body.size) w →
        m'.Reaches code (i + (Tree.loop body rest).size) w' := by
      intro m' hm'
      have hstep := hm'.step_leave ht.loop_close zero
      rw [Tree.add_size_loop]
      exact (ih ht.loop_rest (Tree.start_mem_entries _ rest) hstep).of_step
    rcases List.mem_cons.mp hk with rfl | hk
    · exact (hclose _ (hm.step_skip ht.loop_open zero (closeOf?_loop ht))).of_step
    · obtain rfl := List.mem_singleton.mp hk
      exact hclose m hm
  | @round body rest w w₁ w' nonzero _ _ ihBody ihLoop =>
    intro code i k m ht hk hm
    have hopen : ∀ m' : Machine, m'.LiveAt code i w →
        m'.Reaches code (i + (Tree.loop body rest).size) w' := by
      intro m' hm'
      have hstep := hm'.step_enter ht.loop_open nonzero
      have hbody := ihBody ht.loop_body (Tree.start_mem_entries _ body) hstep
      refine (hbody.trans fun m'' hm'' => ihLoop ht ?_ hm'').of_step
      exact List.mem_cons_of_mem _ (List.mem_singleton.mpr rfl)
    rcases List.mem_cons.mp hk with rfl | hk
    · exact hopen m hm
    · obtain rfl := List.mem_singleton.mp hk
      exact (hopen _ (hm.step_again ht.loop_close nonzero (openOf?_loop ht))).of_step

/-! ## From the machine to the tree -/

namespace Machine

/-- The machine is halted after `n` steps. -/
def HaltsBy (m : Machine) (n : Nat) : Prop := (m.stepN n).isHalted = true

variable {m : Machine} {code : Code} {i : Nat} {w : Store} {n : Nat}

theorem haltsBy_of_status {r : HaltReason} (h : (m.stepN n).status = .halted r) : m.HaltsBy n := by
  rw [HaltsBy, isHalted, h]
  rfl

/-- A live machine needs a step to halt. -/
theorem HaltsBy.step (h : m.HaltsBy n) (hm : m.LiveAt code i w) :
    ∃ k, n = k + 1 ∧ m.step.machine.HaltsBy k := by
  cases n with
  | zero => exact absurd (hm.live.symm.trans h) Bool.false_ne_true
  | succ k => exact ⟨k, rfl, h⟩

theorem HaltsBy.stepN {a : Nat} (h : m.HaltsBy n) (ha : a ≤ n) : (m.stepN a).HaltsBy (n - a) := by
  unfold HaltsBy at h ⊢
  rw [← stepN_add, Nat.add_sub_cancel' ha]
  exact h

end Machine

/-- **A machine that halts has evaluated its tree on the way**: it comes live to the end of the
tree, with the store to which the tree evaluates. -/
theorem Tree.runs_of_halts (n : Nat) :
    ∀ {P : Tree} {code : Code} {i : Nat} {m : Machine} {w : Store}, HasTree code i P →
      m.LiveAt code i w → m.HaltsBy n →
      ∃ k w', k ≤ n ∧ P.Runs w w' ∧ (m.stepN k).LiveAt code (i + P.size) w' := by
  induction n using Nat.strongRecOn with
  | ind n ih =>
    intro P code i m w ht hm hn
    cases P with
    | nil => exact ⟨0, w, Nat.zero_le n, .nil w, hm⟩
    | byte b ho hc rest =>
      obtain ⟨n, rfl, hn₁⟩ := hn.step hm
      have hstep := hm.step_byte ht.byte_getElem? ho hc
      obtain ⟨k, w', hk, hruns, hlive⟩ := ih n (by omega) ht.byte_rest hstep hn₁
      refine ⟨k + 1, w', by omega, .byte hruns, ?_⟩
      rw [Tree.add_size_byte]
      exact hlive
    | loop body rest =>
      obtain ⟨n, rfl, hn₁⟩ := hn.step hm
      by_cases hr : w.tape.read = 0
      · have hskip := hm.step_skip ht.loop_open hr (closeOf?_loop ht)
        obtain ⟨n, rfl, hn₂⟩ := hn₁.step hskip
        have hleave := hskip.step_leave ht.loop_close hr
        obtain ⟨k, w', hk, hruns, hlive⟩ := ih n (by omega) ht.loop_rest hleave hn₂
        refine ⟨k + 2, w', by omega, .skip hr hruns, ?_⟩
        rw [Tree.add_size_loop]
        exact hlive
      · have henter := hm.step_enter ht.loop_open hr
        obtain ⟨k₁, w₁, hk₁, hbody, hlive₁⟩ := ih n (by omega) ht.loop_body henter hn₁
        -- the round is over: the machine is on the closing bracket
        obtain ⟨n', hn', hhalt⟩ := (hn₁.stepN hk₁).step hlive₁
        by_cases hr₁ : w₁.tape.read = 0
        · have hleave := hlive₁.step_leave ht.loop_close hr₁
          obtain ⟨k, w', hk, hruns, hlive⟩ := ih n' (by omega) ht.loop_rest hleave hhalt
          refine ⟨k₁ + (k + 1) + 1, w', by omega, .round hr hbody (.skip hr₁ hruns), ?_⟩
          rw [Tree.add_size_loop, Machine.stepN, Machine.stepN_add]
          exact hlive
        · have hagain := hlive₁.step_again ht.loop_close hr₁ (openOf?_loop ht)
          obtain ⟨k, w', hk, hruns, hlive⟩ := ih n' (by omega) ht hagain hhalt
          refine ⟨k₁ + (k + 1) + 1, w', by omega, .round hr hbody hruns, ?_⟩
          rw [Machine.stepN, Machine.stepN_add]
          exact hlive

/-! ## Whole programs -/

theorem Machine.start_liveAt (source : Bytes) (t : Tape) :
    (Machine.start source t).LiveAt source.toArray 0 ⟨t, #[]⟩ :=
  ⟨rfl, rfl, rfl, rfl⟩

theorem Tree.getElem?_end (P : Tree) : P.source.toArray[0 + P.size]? = none := by
  simp [Tree.size]

section Whole

variable {P : Tree} {m : Machine} {w : Store}

theorem Tree.Runs.finishes {w' : Store} (h : P.Runs w w') (hm : m.LiveAt P.source.toArray 0 w) :
    ∃ n, (m.stepN n).status = .halted .finished ∧ (m.stepN n).store = w' := by
  obtain ⟨n, hn⟩ := h.reaches (hasTree_source P) (Tree.start_mem_entries 0 P) hm
  refine ⟨n + 1, ?_⟩
  rw [Machine.stepN_succ_last]
  exact hn.step_finish P.getElem?_end

theorem Tree.finished_of_halts {n : Nat} (hm : m.LiveAt P.source.toArray 0 w) (hn : m.HaltsBy n) :
    ∃ w', P.Runs w w' ∧ (m.stepN n).status = .halted .finished ∧ (m.stepN n).store = w' := by
  obtain ⟨k, w', hk, hruns, hlive⟩ := Tree.runs_of_halts n (hasTree_source P) hm hn
  obtain ⟨r, hr, -⟩ := (hn.stepN hk).step hlive
  have hfin := hlive.step_finish P.getElem?_end
  have hend : m.stepN n = (m.stepN k).step.machine := by
    have hsplit : n = k + (r + 1) := by omega
    rw [hsplit, Machine.stepN_add, Machine.stepN]
    refine Machine.stepN_of_halted ?_ r
    rw [Machine.isHalted, hfin.1]
    rfl
  exact ⟨w', hruns, by rw [hend]; exact hfin⟩

end Whole

/-- **Adequacy.** On every tape, stepping the source of a tree finishes with a tape and an output
exactly when the tree evaluates to them from the zero tape and no output; so it goes on for ever
exactly when the tree evaluates to nothing, and no bracket is ever found unbalanced. -/
theorem step_adequate (P : Tree) (n : Nat) :
    ∃ m, Machine.load? P.source ((n + 1 : Nat) : Int) = .ok m ∧
      (∀ T O, (∃ k, (m.stepN k).status = .halted .finished ∧ (m.stepN k).tape = T ∧
          (m.stepN k).output = O) ↔ P.Runs ⟨Tape.blank n, #[]⟩ ⟨T, O⟩) ∧
      ((∀ k, (m.stepN k).isHalted = false) ↔ ¬ ∃ w, P.Runs ⟨Tape.blank n, #[]⟩ w) ∧
      ∀ k, (m.stepN k).status ≠ .halted .unbalanced := by
  have hm := Machine.start_liveAt P.source (Tape.blank n)
  refine ⟨_, Machine.load?_succ P.source n, fun T O => ⟨?_, ?_⟩, ⟨?_, ?_⟩, ?_⟩
  · rintro ⟨k, hk, rfl, rfl⟩
    obtain ⟨w', hruns, -, rfl⟩ := Tree.finished_of_halts hm (Machine.haltsBy_of_status hk)
    exact hruns
  · intro hruns
    obtain ⟨k, hk, hw⟩ := hruns.finishes hm
    exact ⟨k, hk, congrArg Store.tape hw, congrArg Store.output hw⟩
  · rintro hlive ⟨w, hruns⟩
    obtain ⟨k, hk, -⟩ := hruns.finishes hm
    exact absurd ((Machine.haltsBy_of_status hk).symm.trans (hlive k)) (by decide)
  · intro hnone k
    by_contra hk
    obtain ⟨w', hruns, -⟩ := Tree.finished_of_halts hm (Bool.of_not_eq_false hk)
    exact hnone ⟨w', hruns⟩
  · intro k hk
    obtain ⟨w', -, hfin, -⟩ := Tree.finished_of_halts hm (Machine.haltsBy_of_status hk)
    exact absurd (hk.symm.trans hfin) (by decide)

end TapeDeck
