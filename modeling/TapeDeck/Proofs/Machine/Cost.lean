import TapeDeck.Proofs.Machine.Adequacy
import TapeDeck.Proofs.Machine.Calls
import TapeDeck.Proofs.Program.Matching

/-!
# What a run costs

`Tree.Costs` reads a cost off the structure of a program: a byte costs one, and a loop whose body
runs `k` times costs two for every round, but at least two, and what the rounds cost. The machine
knows nothing of rounds; it counts the brackets it executes. A skipped loop executes both of its
brackets, since the first one lands on the second. A round executes the opening bracket before the
body and the closing one behind it, which is passed after the last round and lands on the opening
one after any other.

The step lemmas are about positions: `Leads` says that so many steps lead from one position and
store to another. A tree leads from its start to its end in exactly its cost (`Tree.Costs.leads`),
by induction on the tree and, in a loop, on the rounds. Since the steps of a live machine are the
ones it counts (`steps_stepN`), the cost is the number of its steps.

**`step_count_law`**: at the halt of a balanced program the number of steps is the cost of the
execution, and one call more than that halts the machine.
-/

namespace TapeDeck

/-! ## Costs -/

/-- `LoopRounds once w k w' c`: as long as the current cell is not zero, rounds of the kind `once`
are made; from the store `w` these are `k`, they end with the store `w'`, and they cost `c`
together. -/
inductive LoopRounds (once : Store → Store → Nat → Prop) : Store → Nat → Store → Nat → Prop
  | done {w : Store} (zero : w.tape.read = 0) : LoopRounds once w 0 w 0
  | round {w w₁ w' : Store} {k c c' : Nat} (nonzero : w.tape.read ≠ 0) (first : once w w₁ c)
      (again : LoopRounds once w₁ k w' c') : LoopRounds once w (k + 1) w' (c + c')

/-- **The structural cost.** `P.Costs w w' c`: from the store `w` the tree `P` ends with the store
`w'`, at the cost `c`. -/
def Tree.Costs : Tree → Store → Store → Nat → Prop
  | nil => fun w w' c => w' = w ∧ c = 0
  | byte b _ _ rest => fun w w' c => ∃ r, rest.Costs (w.act b) w' r ∧ c = 1 + r
  | loop body rest => fun w w' c => ∃ k w₁ s r, LoopRounds body.Costs w k w₁ s ∧
      rest.Costs w₁ w' r ∧ c = 2 * max k 1 + s + r

/-- A tree that evaluates has a cost. -/
theorem Tree.Runs.exists_costs {P : Tree} {w w' : Store} (h : P.Runs w w') :
    ∃ c, P.Costs w w' c := by
  induction h with
  | nil w => exact ⟨0, rfl, rfl⟩
  | byte _ ih =>
    obtain ⟨r, hr⟩ := ih
    exact ⟨_, r, hr, rfl⟩
  | skip zero _ ih =>
    obtain ⟨r, hr⟩ := ih
    exact ⟨_, 0, _, 0, r, .done zero, hr, rfl⟩
  | round nonzero _ _ ihBody ihLoop =>
    obtain ⟨c, hc⟩ := ihBody
    obtain ⟨-, k, w₂, s, r, hrounds, hr, rfl⟩ := ihLoop
    exact ⟨_, k + 1, w₂, c + s, r, .round nonzero hc hrounds, hr, rfl⟩

/-! ## Steps that lead from one position to another -/

/-- `n` steps lead a live machine from position `i` of `code` with the store `w` to position `j`
with the store `w'`. -/
def Leads (code : Code) (n i : Nat) (w : Store) (j : Nat) (w' : Store) : Prop :=
  ∀ m : Machine, m.LiveAt code i w → (m.stepN n).LiveAt code j w'

namespace Leads

variable {code : Code} {n n' i j k : Nat} {w w' w'' : Store}

theorem refl (code : Code) (i : Nat) (w : Store) : Leads code 0 i w i w :=
  fun _ h => h

theorem of_step (h : ∀ m : Machine, m.LiveAt code i w → m.step.machine.LiveAt code j w') :
    Leads code 1 i w j w' :=
  h

theorem trans (h : Leads code n i w j w') (h' : Leads code n' j w' k w'') :
    Leads code (n + n') i w k w'' := by
  intro m hm
  rw [Machine.stepN_add]
  exact h' _ (h m hm)

section Loop

variable {body rest : Tree} (ht : HasTree code i (.loop body rest))

include ht

theorem leave (zero : w.tape.read = 0) :
    Leads code 1 (i + 1 + body.size) w (i + 1 + body.size + 1) w :=
  of_step fun _ hm => hm.step_leave ht.loop_close zero

theorem skip (zero : w.tape.read = 0) : Leads code 1 i w (i + 1 + body.size) w :=
  of_step fun _ hm => hm.step_skip ht.loop_open zero (closeOf?_loop ht)

theorem enter (nonzero : w.tape.read ≠ 0) : Leads code 1 i w (i + 1) w :=
  of_step fun _ hm => hm.step_enter ht.loop_open nonzero

theorem again (nonzero : w.tape.read ≠ 0) : Leads code 1 (i + 1 + body.size) w i w :=
  of_step fun _ hm => hm.step_again ht.loop_close nonzero (openOf?_loop ht)

variable {once : Store → Store → Nat → Prop}
  (hbody : ∀ {w w' c}, once w w' c → Leads code c (i + 1) w (i + 1 + body.size) w')

include hbody

/-- From the closing bracket, every round that is still to come costs two brackets, and leaving the
loop costs one. -/
theorem rounds_from_close {c : Nat} (h : LoopRounds once w k w' c) :
    Leads code (2 * k + c + 1) (i + 1 + body.size) w (i + 1 + body.size + 1) w' := by
  induction h with
  | done zero => exact leave ht zero
  | @round w w₁ w' k c c' nonzero first _ ih =>
    have hcount : 2 * (k + 1) + (c + c') + 1 = 1 + (1 + (c + (2 * k + c' + 1))) := by omega
    rw [hcount]
    exact (again ht nonzero).trans ((enter ht nonzero).trans ((hbody first).trans ih))

/-- From the opening bracket, a loop costs two brackets for every round, and two if there is
none. -/
theorem rounds_from_open {c : Nat} (h : LoopRounds once w k w' c) :
    Leads code (2 * max k 1 + c) i w (i + 1 + body.size + 1) w' := by
  cases h with
  | done zero => exact (skip ht zero).trans (leave ht zero)
  | @round _ w₁ _ k c c' nonzero first rounds =>
    have hcount : 2 * max (k + 1) 1 + (c + c') = 1 + (c + (2 * k + c' + 1)) := by omega
    rw [hcount]
    exact (enter ht nonzero).trans ((hbody first).trans (rounds_from_close ht hbody rounds))

end Loop

end Leads

/-- **A tree is run in exactly its cost.** -/
theorem Tree.Costs.leads {code : Code} {P : Tree} :
    ∀ {i : Nat} {w w' : Store} {c : Nat}, HasTree code i P → P.Costs w w' c →
      Leads code c i w (i + P.size) w' := by
  induction P with
  | nil =>
    rintro i w w' _ - ⟨rfl, rfl⟩
    exact .refl code i w'
  | byte b ho hc rest ih =>
    rintro i w w' _ ht ⟨r, hr, rfl⟩
    have hbyte : Leads code 1 i w (i + 1) (w.act b) :=
      .of_step fun _ hm => hm.step_byte ht.byte_getElem? ho hc
    rw [Tree.add_size_byte]
    exact hbyte.trans (ih ht.byte_rest hr)
  | loop body rest ihBody ihRest =>
    rintro i w w' _ ht ⟨k, w₁, s, r, hrounds, hr, rfl⟩
    rw [Tree.add_size_loop]
    exact (Leads.rounds_from_open ht (ihBody ht.loop_body) hrounds).trans (ihRest ht.loop_rest hr)

/-! ## The steps that a machine counts -/

namespace Machine

variable {m : Machine}

/-- A step that leaves the machine live is counted. -/
theorem steps_step (h : m.step.machine.isHalted = false) :
    m.step.machine.steps = m.steps + 1 := by
  obtain ⟨hh, hm⟩ | ⟨-, -, hm⟩ | ⟨b, -, -, -, hm⟩ | ⟨b, j, -, -, -, -, hm⟩ | ⟨b, -, -, -, -, hm⟩ :=
    m.step_cases
  · rw [hm] at h
    exact absurd (hh.symm.trans h) nofun
  · rw [hm] at h
    exact absurd h nofun
  · rw [hm]
    rfl
  · rw [hm]
    rfl
  · rw [hm] at h
    exact absurd h nofun

theorem steps_stepN {n : Nat} (h : (m.stepN n).isHalted = false) :
    (m.stepN n).steps = m.steps + n := by
  induction n with
  | zero => rfl
  | succ n ih =>
    rw [stepN_succ_last] at h ⊢
    have hlive : (m.stepN n).isHalted = false := live_of_stepN (n := 1) h
    rw [steps_step h, ih hlive, Nat.add_assoc]

/-- If the machine is live after `c` steps and halted after one more, it is halted after `j` steps
exactly when these are more than `c`. -/
theorem isHalted_stepN_iff {c : Nat} (hlive : (m.stepN c).isHalted = false)
    (hhalt : (m.stepN (c + 1)).isHalted = true) (j : Nat) :
    (m.stepN j).isHalted = true ↔ c + 1 ≤ j := by
  constructor
  · intro hj
    by_contra hlt
    obtain ⟨d, rfl⟩ := Nat.exists_eq_add_of_le (Nat.le_of_lt_succ (Nat.lt_of_not_le hlt))
    rw [stepN_add, stepN_of_halted hj, hj] at hlive
    exact absurd hlive nofun
  · intro hle
    obtain ⟨d, rfl⟩ := Nat.exists_eq_add_of_le hle
    rw [stepN_add, stepN_of_halted hhalt]
    exact hhalt

/-- A machine that is halted after some calls is the one that as many plain steps give. -/
theorem calls_eq_stepN {cs : List Call} (h : (m.calls cs).isHalted = true) :
    m.calls cs = m.stepN (cs.count .step) :=
  (m.calls_alike_stepN cs).eq_of_halted h

end Machine

/-- **A program halts right after its cost**: the machine is live for as many steps as the tree
costs, counts all of them, and finishes with the next one. -/
theorem Tree.Costs.halts {P : Tree} {m : Machine} {w w' : Store} {c : Nat} (h : P.Costs w w' c)
    (hm : m.LiveAt P.source.toArray 0 w) :
    (m.stepN c).isHalted = false ∧ (m.stepN (c + 1)).status = .halted .finished ∧
      (m.stepN (c + 1)).store = w' ∧ (m.stepN (c + 1)).steps = m.steps + c := by
  have hend := h.leads (hasTree_source P) m hm
  obtain ⟨hstatus, hstore⟩ := hend.step_finish P.getElem?_end
  refine ⟨hend.live, ?_⟩
  rw [Machine.stepN_succ_last]
  refine ⟨hstatus, hstore, ?_⟩
  rw [Machine.step_of_end hend.live (hend.getElem?.trans P.getElem?_end)]
  exact Machine.steps_stepN hend.live

section Whole

variable {P : Tree} {m : Machine} {w₀ w : Store} {c : Nat} {cs : List Call}
  (hm : m.LiveAt P.source.toArray 0 w₀)

include hm

/-- Calls halt the machine exactly when more steps are among them than the program costs. -/
theorem isHalted_calls_iff (h : P.Costs w₀ w c) (cs : List Call) :
    (m.calls cs).isHalted = true ↔ c + 1 ≤ cs.count .step := by
  obtain ⟨hlive, hstatus, -, -⟩ := h.halts hm
  rw [(m.calls_alike_stepN cs).isHalted_eq]
  exact Machine.isHalted_stepN_iff hlive (Machine.haltsBy_of_status hstatus) _

/-- Whichever calls have halted the machine, it is the one that the cost tells. -/
theorem calls_of_costs (h : P.Costs w₀ w c) (hhalt : (m.calls cs).isHalted = true) :
    (m.calls cs).status = .halted .finished ∧ (m.calls cs).store = w ∧
      (m.calls cs).steps = m.steps + c := by
  obtain ⟨-, hstatus, hstore, hsteps⟩ := h.halts hm
  have hend : m.calls cs = m.stepN (c + 1) := by
    have hcalls := Machine.calls_eq_stepN hhalt
    rw [hcalls] at hhalt ⊢
    exact Machine.stepN_eq_of_halted hhalt (Machine.haltsBy_of_status hstatus)
  rw [hend]
  exact ⟨hstatus, hstore, hsteps⟩

/-- A machine that halts has run its program at a cost. -/
theorem exists_costs_of_halted (hhalt : (m.calls cs).isHalted = true) :
    ∃ w c, P.Costs w₀ w c := by
  rw [Machine.calls_eq_stepN hhalt] at hhalt
  obtain ⟨w, hruns, -⟩ := Tree.finished_of_halts hm hhalt
  exact ⟨w, hruns.exists_costs⟩

end Whole

/-- A balanced program is the source of one tree, and of no other. -/
theorem existsUnique_tree {source : Bytes} (h : Balanced source) :
    ∃! P : Tree, P.source = source := by
  obtain ⟨P, hP⟩ := (allPaired_iff_exists_tree source).mp (paired_of_balanced h)
  exact ⟨P, hP, fun Q hQ => Tree.source_injective (hQ.trans hP.symm)⟩

/-- **The law of the step count.** A balanced program is written by one tree. The machine that runs
it halts, by whatever calls, exactly when the execution of the tree has a cost. It is then finished,
the cost is its number of steps, and it takes one step more than that to halt it. -/
theorem step_count_law {source : Bytes} (hbalanced : Balanced source) (n : Nat) :
    (∃! P : Tree, P.source = source) ∧
      ∃ m, Machine.load? source ((n + 1 : Nat) : Int) = .ok m ∧
        ∀ P : Tree, P.source = source →
          ((∃ cs, (m.calls cs).isHalted = true) ↔ ∃ w c, P.Costs ⟨Tape.blank n, #[]⟩ w c) ∧
          ∀ cs, (m.calls cs).isHalted = true →
            (m.calls cs).halt? = some .finished ∧
            (∀ w c, P.Costs ⟨Tape.blank n, #[]⟩ w c ↔
              w = (m.calls cs).store ∧ c = (m.calls cs).steps) ∧
            ∀ cs', (m.calls cs').isHalted = true ↔ (m.calls cs).steps + 1 ≤ cs'.count .step := by
  refine ⟨existsUnique_tree hbalanced, _, Machine.load?_succ source n, ?_⟩
  rintro P rfl
  have hm := Machine.start_liveAt P.source (Tape.blank n)
  refine ⟨⟨fun ⟨cs, hhalt⟩ => exists_costs_of_halted hm hhalt, fun ⟨w, c, h⟩ => ?_⟩,
    fun cs hhalt => ?_⟩
  · refine ⟨List.replicate (c + 1) .step, (isHalted_calls_iff hm h _).mpr ?_⟩
    rw [List.count_replicate_self]
  · have hfinal {w : Store} {c : Nat} (h : P.Costs ⟨Tape.blank n, #[]⟩ w c) :=
      calls_of_costs hm h hhalt
    obtain ⟨w₀, c₀, h₀⟩ := exists_costs_of_halted hm hhalt
    obtain ⟨hstatus, hstore, hsteps⟩ := hfinal h₀
    obtain rfl : _ = c₀ := hsteps.trans (Nat.zero_add c₀)
    refine ⟨Status.halt?_eq_some_iff.mpr hstatus, fun w c => ⟨fun h => ?_, ?_⟩,
      fun cs' => isHalted_calls_iff hm h₀ cs'⟩
    · obtain ⟨-, hw, hc⟩ := hfinal h
      exact ⟨hw.symm, (hc.trans (Nat.zero_add c)).symm⟩
    · rintro ⟨rfl, rfl⟩
      rw [hstore]
      exact h₀

/-- A loop that is skipped, for two steps, and one that goes round twice, for two brackets and two
bytes each time: with the two bytes between them, twelve steps. -/
theorem step_count_law_two_loops :
    let source : Bytes := [0x5B, 0x2B, 0x5D, 0x2B, 0x2B, 0x5B, 0x2D, 0x2E, 0x5D]
    Balanced source ∧
      ∃ (m : Machine) (P : Tree), Machine.load? source 1 = .ok m ∧ P.source = source ∧
        (∃ w : Store, P.Costs ⟨Tape.blank 0, #[]⟩ w 12 ∧ w.output = #[1, 0]) ∧
        ∀ cs, (m.calls cs).isHalted = true ↔ 13 ≤ cs.count .step := by
  intro source
  let P : Tree := .loop (.byte 0x2B (by decide) (by decide) .nil) <|
    .byte 0x2B (by decide) (by decide) <| .byte 0x2B (by decide) (by decide) <|
    .loop (.byte 0x2D (by decide) (by decide) (.byte 0x2E (by decide) (by decide) .nil)) .nil
  have hbalanced : Balanced source := balanced_of_paired (allPaired_source P)
  obtain ⟨-, m, hm, hlaw⟩ := step_count_law hbalanced 0
  obtain ⟨hhalts, hcount⟩ := hlaw P rfl
  -- the second loop starts with 2 in its cell, and each round takes 1 and writes out what is left
  let again (w : Store) : Store := (w.act 0x2D).act 0x2E
  let w : Store := ((⟨Tape.blank 0, #[]⟩ : Store).act 0x2B).act 0x2B
  have hrounds : LoopRounds (Tree.byte 0x2D (by decide) (by decide)
      (.byte 0x2E (by decide) (by decide) .nil)).Costs w 2 (again (again w)) 4 := by
    have hbody (w : Store) : (Tree.byte 0x2D (by decide) (by decide)
        (.byte 0x2E (by decide) (by decide) .nil)).Costs w (again w) 2 :=
      ⟨1, ⟨0, ⟨rfl, rfl⟩, rfl⟩, rfl⟩
    exact .round (by decide) (hbody w) (.round (by decide) (hbody _) (.done (by decide)))
  have hcost : P.Costs ⟨Tape.blank 0, #[]⟩ (again (again w)) 12 :=
    ⟨0, _, 0, 10, .done (by decide),
      ⟨9, ⟨8, ⟨2, _, 4, 0, hrounds, ⟨rfl, rfl⟩, rfl⟩, rfl⟩, rfl⟩, rfl⟩
  obtain ⟨cs, hhalt⟩ := hhalts.mpr ⟨_, 12, hcost⟩
  obtain ⟨-, hsteps, hiff⟩ := hcount cs hhalt
  rw [← ((hsteps _ 12).mp hcost).2] at hiff
  exact ⟨hbalanced, m, P, hm, rfl, ⟨_, hcost, by decide⟩, hiff⟩

end TapeDeck
