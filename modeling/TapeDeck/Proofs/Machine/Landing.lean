import TapeDeck.Proofs.Machine.Invariant

/-!
# Landing on the partner or past it

A bracket that jumps lands **on** its partner, which is then a step of its own. `stepPast` is the
other way to do it: the same machine in everything, but a bracket that jumps lands one position past
its partner.

The partner is a bracket of the other kind and tests the same cell, so it never jumps back
(`not_scans_of_landing`). Its step moves on and changes nothing, and the two steps together are the
one step of the other machine, but for the count of steps (`step_step_of_landing`). Any other step
is the same in both (`stepPast_of_no_landing`). So `k` steps of the other machine are as many steps
of this one and one more for each jump (`stepN_add_jumpsPast`).

**`landing_on_or_past`** says what this means for whole runs: they halt together, with the same
tape, output, position and reason, and their counts of steps differ by the number of jumps.
-/

namespace TapeDeck

theorem Status.begin_begin (s : Status) : s.begin.begin = s.begin := by
  cases s <;> rfl

/-- A bracket that does not jump acts on nothing. -/
theorem Store.act_bracket (w : Store) {b : UInt8} (h : b = openByte ∨ b = closeByte) :
    w.act b = w ∧ w.emitted b = none := by
  rcases h with rfl | rfl
  · exact ⟨rfl, rfl⟩
  · exact ⟨rfl, rfl⟩

namespace Machine

/-! ## Steps that jump -/

instance (m : Machine) : Decidable m.Scans :=
  inferInstanceAs (Decidable (_ ∨ _))

/-- The partner on which the next step lands, if it is the step of a bracket that has to jump and
finds one. -/
def landing? (m : Machine) : Option Nat :=
  if m.isHalted = false ∧ m.Scans then partnerOf? m.code m.index else none

/-- How many of the first `n` steps jump, when `next` makes a step. -/
def landings (next : Machine → Machine) : Nat → Machine → Nat
  | 0, _ => 0
  | n + 1, m => (if m.landing?.isSome then 1 else 0) + landings next n (next m)

/-- How many of the first `n` steps jump. -/
def jumps (m : Machine) (n : Nat) : Nat :=
  landings (fun m => m.step.machine) n m

/-! ## The machine that lands past the partner -/

/-- `execute`, but for where a bracket lands. -/
def executePast (m : Machine) (b : UInt8) : Stepped :=
  match Command.ofByte? b with
  | some .loopOpen =>
    if m.tape.read = 0 then
      m.jump b ((closeOf? m.code m.index).map (· + 1)) (.noClose m.index)
    else m.move b id
  | some .loopClose =>
    if m.tape.read = 0 then m.move b id
    else m.jump b ((openOf? m.code m.index).map (· + 1)) (.noOpen m.index)
  | _ => m.execute b

/-- `step`, but for where a bracket lands. -/
def stepPast (m : Machine) : Stepped :=
  if m.isHalted then m.rest
  else
    match m.code[m.index]? with
    | none => (m.stop .finished).rest
    | some b => { m with status := m.status.begin }.executePast b

/-- The machine after `n` such steps. -/
def stepPastN : Nat → Machine → Machine
  | 0, m => m
  | n + 1, m => stepPastN n m.stepPast.machine

/-- How many of the first `n` of these steps jump. -/
def jumpsPast (m : Machine) (n : Nat) : Nat :=
  landings (fun m => m.stepPast.machine) n m

variable {m : Machine}

theorem landing?_eq_some_iff {j : Nat} :
    m.landing? = some j ↔
      m.isHalted = false ∧ m.Scans ∧ partnerOf? m.code m.index = some j := by
  unfold landing?
  rw [Option.ite_none_right_eq_some, and_assoc]

theorem landing?_of_halted (h : m.isHalted = true) : m.landing? = none :=
  if_neg fun hl => absurd (h.symm.trans hl.1) (by decide)

theorem landings_of_none {next : Machine → Machine} (h : m.landing? = none) (n : Nat) :
    landings next (n + 1) m = landings next n (next m) := by
  rw [landings, h]
  exact Nat.zero_add _

theorem landings_of_some {next : Machine → Machine} {j : Nat} (h : m.landing? = some j) (n : Nat) :
    landings next (n + 1) m = landings next n (next m) + 1 := by
  rw [landings, h]
  exact Nat.add_comm _ _

theorem stepPast_of_some {b : UInt8} (hl : m.isHalted = false) (hb : m.code[m.index]? = some b) :
    m.stepPast = { m with status := m.status.begin }.executePast b := by
  rw [stepPast, if_neg (ne_true_of_eq_false hl), hb]

/-- A byte that does not jump is executed alike. -/
theorem stepPast_of_plain {b : UInt8} (hl : m.isHalted = false) (hb : m.code[m.index]? = some b)
    (hs : ¬ m.Scans) : m.stepPast = m.step := by
  rw [stepPast_of_some hl hb, step_of_some hl hb]
  unfold executePast
  cases hc : Command.ofByte? b with
  | none => rfl
  | some c =>
    cases c with
    | loopOpen =>
      have hr : m.tape.read ≠ 0 := fun h => hs (.inl ⟨getElem?_open hb hc, h⟩)
      simp only [execute, hc, if_neg hr]
    | loopClose =>
      have hr : m.tape.read = 0 := by
        by_contra h
        exact hs (.inr ⟨getElem?_close hb hc, h⟩)
      simp only [execute, hc, if_pos hr]
    | right => rfl
    | left => rfl
    | increment => rfl
    | decrement => rfl
    | output => rfl

/-- A bracket that jumps is decided by the answer of its scan, moved by one. -/
theorem stepPast_of_scans {b : UInt8} (hl : m.isHalted = false) (hb : m.code[m.index]? = some b)
    (hs : m.Scans) :
    m.stepPast = { m with status := m.status.begin }.jump b
      ((partnerOf? m.code m.index).map (· + 1)) (m.fault b) := by
  rw [stepPast_of_some hl hb]
  rcases hs with ⟨ho, hr⟩ | ⟨hc, hr⟩
  · obtain rfl : b = openByte := Option.some.inj (hb.symm.trans ho)
    rw [partnerOf?_open ho]
    exact if_pos hr
  · obtain rfl : b = closeByte := Option.some.inj (hb.symm.trans hc)
    rw [partnerOf?_close hc]
    exact if_neg hr

/-- **A step that does not jump is the same in both machines.** -/
theorem stepPast_of_no_landing (h : m.landing? = none) : m.stepPast = m.step := by
  cases hl : m.isHalted with
  | true => rw [step_of_halted hl, stepPast, if_pos hl]
  | false =>
    cases hb : m.code[m.index]? with
    | none => rw [step_of_end hl hb, stepPast, if_neg (ne_true_of_eq_false hl), hb]
    | some b =>
      by_cases hs : m.Scans
      · have hj : partnerOf? m.code m.index = none := by
          rw [← h]
          exact (if_pos ⟨hl, hs⟩).symm
        rw [stepPast_of_scans hl hb hs, step_of_scans hl hb hs, hj, Option.map_none]
      · exact stepPast_of_plain hl hb hs

/-! ## A jump and the step after it -/

section Landing

variable {j : Nat}

theorem exists_getElem?_of_landing (h : m.landing? = some j) : ∃ b, m.code[m.index]? = some b := by
  obtain ⟨-, hs, -⟩ := landing?_eq_some_iff.mp h
  rcases hs with ⟨hb, -⟩ | ⟨hb, -⟩
  · exact ⟨_, hb⟩
  · exact ⟨_, hb⟩

theorem stepPast_of_landing (h : m.landing? = some j) :
    m.stepPast.machine = m.land (j + 1) := by
  obtain ⟨b, hb⟩ := exists_getElem?_of_landing h
  obtain ⟨hl, hs, hj⟩ := landing?_eq_some_iff.mp h
  rw [stepPast_of_scans hl hb hs, hj]
  rfl

theorem step_of_landing (h : m.landing? = some j) : m.step.machine = m.land j := by
  obtain ⟨b, hb⟩ := exists_getElem?_of_landing h
  obtain ⟨hl, hs, hj⟩ := landing?_eq_some_iff.mp h
  rw [step_of_partner hl hb hs hj]
  rfl

/-- **The partner does not jump back**: it is a bracket of the other kind, on the same cell. -/
theorem not_scans_of_landing (h : m.landing? = some j) : ¬ (m.land j).Scans := by
  obtain ⟨-, hs, hj⟩ := landing?_eq_some_iff.mp h
  have hcell : (m.land j).tape.read = m.tape.read := rfl
  have hbyte : (m.land j).code[(m.land j).index]? = m.code[j]? := rfl
  unfold Scans at hs ⊢
  rw [hcell, hbyte]
  rcases getElem?_partnerOf? hj with ⟨hi, hj'⟩ | ⟨hi, hj'⟩
  · have hr : m.tape.read = 0 := by
      rcases hs with ⟨-, hr⟩ | ⟨hc, -⟩
      · exact hr
      · exact absurd hc (ne_close_of_open hi)
    rintro (⟨ho, -⟩ | ⟨-, hr'⟩)
    · exact ne_close_of_open ho hj'
    · exact hr' hr
  · have hr : m.tape.read ≠ 0 := by
      rcases hs with ⟨ho, -⟩ | ⟨-, hr⟩
      · exact absurd hi (ne_close_of_open ho)
      · exact hr
    rintro (⟨-, hr'⟩ | ⟨hc, -⟩)
    · exact hr hr'
    · exact ne_close_of_open hj' hc

end Landing

/-- The machine with `s` more steps on its count. -/
def later (m : Machine) (s : Nat) : Machine :=
  { m with steps := m.steps + s }

/-- **A jump and the step after it** are one step of the machine that lands past the partner, but
for the count. -/
theorem step_step_of_landing {j : Nat} (h : m.landing? = some j) :
    ∃ b, m.code[j]? = some b ∧
      m.step.machine.step = (m.stepPast.machine.later 1).executed j b none none := by
  obtain ⟨hl, -, hj⟩ := landing?_eq_some_iff.mp h
  obtain ⟨b, hb, hbracket⟩ : ∃ b, m.code[j]? = some b ∧ (b = openByte ∨ b = closeByte) := by
    rcases getElem?_partnerOf? hj with ⟨-, hb⟩ | ⟨-, hb⟩
    · exact ⟨_, hb, .inr rfl⟩
    · exact ⟨_, hb, .inl rfl⟩
  obtain ⟨hact, hemitted⟩ := (m.land j).store.act_bracket hbracket
  have hadvance : (m.land j).advance b = (m.land (j + 1)).later 1 := by
    unfold advance
    rw [hact]
    exact congrArg (Machine.mk m.code m.tape (j + 1) m.output · (m.steps + 1 + 1))
      m.status.begin_begin
  refine ⟨b, hb, ?_⟩
  rw [step_of_landing h, stepPast_of_landing h,
    step_of_plain (live_land hl j) hb (not_scans_of_landing h), hadvance, hemitted]
  rfl

/-! ## Whole runs -/

section Later

variable (m) (s : Nat)

theorem later_later (s' : Nat) : (m.later s).later s' = m.later (s + s') :=
  congrArg (Machine.mk _ _ _ _ _) (Nat.add_assoc m.steps s s')

theorem step_later : (m.later s).step.machine = m.step.machine.later s := by
  have hsteps : m.steps + s + 1 = m.steps + 1 + s := Nat.add_right_comm m.steps s 1
  obtain ⟨hl, hm⟩ | ⟨hl, hb, hm⟩ | ⟨b, hl, hb, hs, hm⟩ | ⟨b, j, hl, hb, hs, hj, hm⟩ |
    ⟨b, hl, hb, hs, hj, hm⟩ := m.step_cases
  · rw [hm, step_of_halted (m := m.later s) hl]
    rfl
  · rw [hm, step_of_end (m := m.later s) hl hb]
    rfl
  · rw [hm, step_of_plain (m := m.later s) hl hb hs]
    exact congrArg (Machine.mk _ _ _ _ _) hsteps
  · rw [hm, step_of_partner (m := m.later s) hl hb hs hj]
    exact congrArg (Machine.mk _ _ _ _ _) hsteps
  · rw [hm, step_of_no_partner (m := m.later s) hl hb hs hj]
    rfl

theorem stepPast_later : (m.later s).stepPast.machine = m.stepPast.machine.later s := by
  have hlanding : (m.later s).landing? = m.landing? := rfl
  cases h : m.landing? with
  | none =>
    rw [stepPast_of_no_landing h, stepPast_of_no_landing (hlanding.trans h)]
    exact m.step_later s
  | some j =>
    rw [stepPast_of_landing h, stepPast_of_landing (hlanding.trans h)]
    exact congrArg (Machine.mk _ _ _ _ _) (Nat.add_right_comm m.steps s 1)

theorem stepPastN_later (k : Nat) : (m.later s).stepPastN k = (m.stepPastN k).later s := by
  induction k generalizing m with
  | zero => rfl
  | succ k ih =>
    rw [stepPastN, stepPast_later]
    exact ih m.stepPast.machine

theorem jumpsPast_later (k : Nat) : (m.later s).jumpsPast k = m.jumpsPast k := by
  induction k generalizing m with
  | zero => rfl
  | succ k ih =>
    have hnext := ih m.stepPast.machine
    rw [← m.stepPast_later s] at hnext
    exact congrArg (_ + ·) hnext

end Later

/-- The step after a jump does not jump. -/
theorem landing?_after_landing {j : Nat} (h : m.landing? = some j) :
    m.step.machine.landing? = none := by
  rw [step_of_landing h]
  exact if_neg fun hl => not_scans_of_landing h hl.2

/-- **A run, counted both ways.** After `k` steps of the machine that lands past the partner, the
machine that lands on it is at the same point with one step more for each jump, and has made as many
jumps. -/
theorem stepN_add_jumpsPast (m : Machine) (k : Nat) :
    m.stepN (k + m.jumpsPast k) = (m.stepPastN k).later (m.jumpsPast k) ∧
      m.jumps (k + m.jumpsPast k) = m.jumpsPast k := by
  induction k generalizing m with
  | zero => exact ⟨rfl, rfl⟩
  | succ k ih =>
    cases h : m.landing? with
    | none =>
      have hstep : m.stepPast.machine = m.step.machine := by rw [stepPast_of_no_landing h]
      have hcount : m.jumpsPast (k + 1) = m.step.machine.jumpsPast k := by
        rw [← hstep]
        exact landings_of_none h k
      obtain ⟨hrun, hjumps⟩ := ih m.step.machine
      rw [hcount, Nat.add_right_comm]
      refine ⟨?_, ?_⟩
      · rw [stepPastN, hstep]
        exact hrun
      · exact (landings_of_none h _).trans hjumps
    | some j =>
      -- two steps for one: the second is that of the partner
      have hstep : m.step.machine.step.machine = m.stepPast.machine.later 1 := by
        obtain ⟨b, -, hb⟩ := step_step_of_landing h
        rw [hb]
        rfl
      have hcount : m.jumpsPast (k + 1) = m.stepPast.machine.jumpsPast k + 1 :=
        landings_of_some h k
      obtain ⟨hrun, hjumps⟩ := ih (m.stepPast.machine.later 1)
      rw [jumpsPast_later] at hrun hjumps
      have hsplit : k + 1 + (m.stepPast.machine.jumpsPast k + 1) =
          k + m.stepPast.machine.jumpsPast k + 1 + 1 := by omega
      rw [hcount, hsplit]
      refine ⟨?_, ?_⟩
      · rw [stepN, stepN, hstep, hrun, stepPastN_later, stepPastN, later_later, Nat.add_comm 1]
      · rw [jumps, landings_of_some h, landings_of_none (landing?_after_landing h), hstep]
        exact congrArg (· + 1) hjumps

/-- A halted machine makes no jumps. -/
theorem jumps_of_halted (h : m.isHalted = true) (n : Nat) : m.jumps n = 0 := by
  induction n with
  | zero => rfl
  | succ n ih =>
    rw [jumps, landings_of_none (landing?_of_halted h), step_of_halted h]
    exact ih

theorem jumps_add (m : Machine) (a b : Nat) :
    m.jumps (a + b) = m.jumps a + (m.stepN a).jumps b := by
  induction a generalizing m with
  | zero => rw [Nat.zero_add, jumps, jumps, landings, Nat.zero_add]; rfl
  | succ a ih =>
    have hnext := ih m.step.machine
    rw [Nat.add_right_comm]
    cases h : m.landing? with
    | none =>
      rw [jumps, jumps, landings_of_none h, landings_of_none h]
      exact hnext
    | some j =>
      rw [jumps, jumps, landings_of_some h, landings_of_some h, Nat.add_right_comm]
      exact congrArg (· + 1) hnext

/-- Halted after one number of steps and after another, a machine has made as many jumps. -/
theorem jumps_eq_of_halted {a b : Nat} (ha : (m.stepN a).isHalted = true)
    (hb : (m.stepN b).isHalted = true) : m.jumps a = m.jumps b := by
  refine eq_of_halted_of_add (fun a d h => ?_) ha hb
  rw [jumps_add, jumps_of_halted h, Nat.add_zero]

/-- The two machines halt together. -/
theorem halts_iff_halts_past (m : Machine) :
    (∃ k, (m.stepN k).isHalted = true) ↔ ∃ k, (m.stepPastN k).isHalted = true := by
  constructor
  · rintro ⟨k, hk⟩
    -- `k` steps past the partners go at least as far as `k` steps onto them
    have hrun := (m.stepN_add_jumpsPast k).1
    rw [stepN_add, stepN_of_halted hk] at hrun
    refine ⟨k, ?_⟩
    rw [hrun] at hk
    exact hk
  · rintro ⟨k, hk⟩
    refine ⟨k + m.jumpsPast k, ?_⟩
    rw [(m.stepN_add_jumpsPast k).1]
    exact hk

/-- Where the one machine is halted, the other one is halted with as many steps fewer as there were
jumps. -/
theorem stepN_eq_later {k k' : Nat} (hk : (m.stepN k).isHalted = true)
    (hk' : (m.stepPastN k').isHalted = true) :
    m.stepN k = (m.stepPastN k').later (m.jumps k) ∧ m.jumps k = m.jumpsPast k' := by
  obtain ⟨hrun, hjumps⟩ := m.stepN_add_jumpsPast k'
  have hhalt : (m.stepN (k' + m.jumpsPast k')).isHalted = true := by
    rw [hrun]
    exact hk'
  have hcount : m.jumps k = m.jumpsPast k' := (jumps_eq_of_halted hk hhalt).trans hjumps
  refine ⟨?_, hcount⟩
  rw [stepN_eq_of_halted hk hhalt, hrun, hcount]

/-- **The step after a jump**, with calls that are no steps in between: it executes the partner
without looking for anything, moves on and leaves tape and output as they were. -/
theorem step_after_landing {j : Nat} (h : m.landing? = some j) {ds : List Call}
    (hds : Call.step ∉ ds) :
    ¬ (m.step.machine.calls ds).Scans ∧
      (∃ b, m.code[j]? = some b ∧ (m.step.machine.calls ds).step.answer =
        ({ command := some b, index := j, tape := m.tape, output := none, halt := none }, none)) ∧
      (m.step.machine.calls ds).step.machine.Alike ((m.land (j + 1)).later 1) := by
  have halike : (m.step.machine.calls ds).Alike m.step.machine := by
    have := m.step.machine.calls_alike_stepN ds
    rwa [List.count_eq_zero.mpr hds] at this
  obtain ⟨hresult, hfault, hmachine⟩ := halike.step
  obtain ⟨b, hb, hstep⟩ := step_step_of_landing h
  have hl : (m.land (j + 1)).isHalted = false :=
    live_land (landing?_eq_some_iff.mp h).1 (j + 1)
  rw [stepPast_of_landing h] at hstep
  refine ⟨?_, ⟨b, hb, ?_⟩, ?_⟩
  · have hn := not_scans_of_landing h
    rw [← step_of_landing h] at hn
    unfold Scans at hn ⊢
    rwa [halike.code_eq, halike.index_eq, halike.tape_eq]
  · rw [Stepped.answer, hresult, hfault, hstep]
    exact congrArg (fun r => (StepReport.mk (some b) j m.tape none r, none)) (halt?_eq_none hl)
  · rw [hstep] at hmachine
    exact hmachine

end Machine

/-- **Landing on the partner or past it.** Take any machine that calls have brought a loaded program
to, and let its next step be that of a bracket that finds its partner `j`. The machine lands on `j`,
and the step after it, whatever other calls come in between, executes the byte there without looking
for a partner, moves on to `j + 1`, and changes neither tape nor output. So a run halts exactly when
the run of the machine that lands on `j + 1` at once does. Then tape, output, position and reason
are the same, and the count of steps is greater by the number of jumps, which is the same in both
runs. -/
theorem landing_on_or_past (source : Bytes) (n : Nat) :
    ∃ m₀, Machine.load? source ((n + 1 : Nat) : Int) = .ok m₀ ∧
      (∀ cs j, (m₀.calls cs).landing? = some j →
        let m := m₀.calls cs
        m.step.machine.index = j ∧
        ∀ ds, Call.step ∉ ds →
          let m₁ := m.step.machine.calls ds
          ¬ m₁.Scans ∧ m₁.step.fault = none ∧ m₁.step.result.executed = true ∧
          m₁.step.result.command = source[j]? ∧ m₁.step.machine.index = j + 1 ∧
          m₁.step.machine.tape = m.tape ∧ m₁.step.machine.output = m.output ∧
          m₁.step.machine.isHalted = false) ∧
      ((∃ k, (m₀.stepN k).isHalted = true) ↔ ∃ k', (m₀.stepPastN k').isHalted = true) ∧
      (∀ k k', (m₀.stepN k).isHalted = true → (m₀.stepPastN k').isHalted = true →
        (m₀.stepN k).tape = (m₀.stepPastN k').tape ∧
        (m₀.stepN k).output = (m₀.stepPastN k').output ∧
        (m₀.stepN k).index = (m₀.stepPastN k').index ∧
        (m₀.stepN k).halt? = (m₀.stepPastN k').halt? ∧
        (m₀.stepN k).steps = (m₀.stepPastN k').steps + m₀.jumps k ∧
        m₀.jumps k = m₀.jumpsPast k') := by
  refine ⟨_, Machine.load?_succ source n, fun cs j hj => ?_, Machine.halts_iff_halts_past _,
    fun k k' hk hk' => ?_⟩
  · have hcode := (Machine.Invariant.calls source n cs).code_eq
    generalize (Machine.start source (Tape.blank n)).calls cs = m at hcode hj
    refine ⟨by rw [Machine.step_of_landing hj]; rfl, fun ds hds => ?_⟩
    obtain ⟨hscans, ⟨b, hb, hanswer⟩, halike⟩ := Machine.step_after_landing hj hds
    obtain ⟨hresult, hfault⟩ := Prod.mk.inj hanswer
    rw [hcode, List.getElem?_toArray] at hb
    refine ⟨hscans, hfault, ?_, ?_, halike.index_eq, halike.tape_eq, halike.output_eq, ?_⟩
    · rw [hresult]
      rfl
    · rw [hresult]
      exact hb.symm
    · rw [halike.isHalted_eq]
      exact Machine.live_land (Machine.landing?_eq_some_iff.mp hj).1 (j + 1)
  · obtain ⟨hend, hcount⟩ := Machine.stepN_eq_later hk hk'
    refine ⟨?_, ?_, ?_, ?_, ?_, hcount⟩
    all_goals
      rw [hend]
      rfl

/-- A loop that goes round twice: its closing bracket jumps once. The step after the jump goes on
from the opening bracket, and the run has one step more than that of the machine that lands past
it. -/
theorem landing_on_or_past_loop :
    let source : Bytes := [0x2B, 0x2B, 0x5B, 0x2D, 0x5D]
    let cs : List Call := [.step, .run, .step, .step, .step]
    ∃ m, Machine.load? source 1 = .ok m ∧ (m.calls cs).landing? = some 2 ∧
      ((m.calls cs).step.machine.calls [.pause]).step.machine.index = 3 ∧
      (m.stepN 9).isHalted = true ∧ (m.stepPastN 8).isHalted = true ∧
      (m.stepN 9).tape = (m.stepPastN 8).tape ∧ m.jumps 9 = 1 ∧
      (m.stepN 9).steps = (m.stepPastN 8).steps + 1 := by
  intro source cs
  obtain ⟨m, hm, hafter, -, hend⟩ := landing_on_or_past source 0
  obtain rfl : Machine.start source (Tape.blank 0) = m := Except.ok.inj hm
  obtain ⟨-, hnext⟩ := hafter cs 2 (by decide)
  obtain ⟨-, -, -, -, hindex, -⟩ := hnext [.pause] (by decide)
  obtain ⟨htape, -, -, -, hsteps, -⟩ := hend 9 8 (by decide) (by decide)
  have hjumps : (Machine.start source (Tape.blank 0)).jumps 9 = 1 := by decide
  rw [hjumps] at hsteps
  refine ⟨Machine.start source (Tape.blank 0), rfl, ?_, hindex, ?_, ?_, htape, hjumps, hsteps⟩
  · decide
  · decide
  · decide

end TapeDeck
