import TapeDeck.Machine.Basic
import TapeDeck.Proofs.Program.Partner

/-!
# What a step can do

A step of a machine is one of five things, told apart by what the machine shows before it: it is
halted; nothing is left to execute; the byte acts on the store and the machine moves on; a bracket
lands on its partner; a bracket has no partner to land on. `Machine.step_cases` says so with the
whole result of each, so that no later argument opens `Machine.step` itself. Whether a bracket
looks for its partner is `Machine.Scans`.

Laws of runs follow: `stepN`, `trace` and `reports` split at any point, and a halted machine is at
rest for good (`stepN_of_halted`).
-/

namespace TapeDeck

/-- What a program acts on: the tape, and what has been written out. -/
@[ext]
structure Store where
  tape : Tape
  output : Array UInt8

/-- The effect of a byte that stands alone: moves and arithmetic on the tape, output of the current
cell, and nothing for any other byte. -/
def Store.act (w : Store) (b : UInt8) : Store :=
  match Command.ofByte? b with
  | some .right => { w with tape := w.tape.moveRight }
  | some .left => { w with tape := w.tape.moveLeft }
  | some .increment => { w with tape := w.tape.increment }
  | some .decrement => { w with tape := w.tape.decrement }
  | some .output => { w with output := w.output.push w.tape.read }
  | _ => w

/-- The byte that the effect writes out, if it does. -/
def Store.emitted (w : Store) (b : UInt8) : Option UInt8 :=
  match Command.ofByte? b with
  | some .output => some w.tape.read
  | _ => none

/-! ## Status -/

namespace Status

@[simp]
theorem halt?_begin (s : Status) : s.begin.halt? = s.halt? := by cases s <;> rfl

@[simp]
theorem isHalted_begin (s : Status) : s.begin.isHalted = s.isHalted := by cases s <;> rfl

theorem begin_eq_running_iff (s : Status) : s.begin = running ↔ s = running := by
  cases s <;> simp [begin]

theorem begin_ne_ready (s : Status) : s.begin ≠ ready := by
  cases s <;> simp [begin]

theorem halt?_eq_none_iff (s : Status) : s.halt? = none ↔ s.isHalted = false := by
  unfold isHalted
  cases s.halt? <;> simp

theorem halt?_eq_some_iff {s : Status} {r : HaltReason} : s.halt? = some r ↔ s = halted r := by
  cases s <;> simp [halt?]

theorem isHalted_iff {s : Status} : s.isHalted = true ↔ ∃ r, s = halted r := by
  cases s <;> simp [isHalted, halt?]

/-- The only status that is left when the others are excluded. -/
theorem eq_paused {s : Status} (hl : s.isHalted = false) (hready : s ≠ ready)
    (hrunning : s ≠ running) : s = paused := by
  cases s with
  | ready => exact absurd rfl hready
  | running => exact absurd rfl hrunning
  | paused => rfl
  | halted r => exact absurd (isHalted_iff.mpr ⟨r, rfl⟩) (ne_true_of_eq_false hl)

end Status

namespace Machine

/-! ## Loading -/

theorem load?_succ (source : Bytes) (n : Nat) :
    load? source ((n + 1 : Nat) : Int) = .ok (start source (Tape.blank n)) :=
  rfl

/-- A positive size loads, and nothing else does. -/
theorem load?_eq_ok_iff {source : Bytes} {size : Int} {m : Machine} :
    load? source size = .ok m ↔
      ∃ n : Nat, size = ((n + 1 : Nat) : Int) ∧ m = start source (Tape.blank n) := by
  constructor
  · intro h
    match size, h with
    | .ofNat (n + 1), h => exact ⟨n, rfl, (Except.ok.inj h).symm⟩
  · rintro ⟨n, rfl, rfl⟩
    exact load?_succ source n

theorem load?_eq_ok_of_pos (source : Bytes) {size : Int} (h : 0 < size) :
    ∃ m, load? source size = .ok m := by
  obtain ⟨n, rfl⟩ : ∃ n : Nat, size = ((n + 1 : Nat) : Int) := ⟨(size - 1).toNat, by omega⟩
  exact ⟨_, load?_succ source n⟩

theorem load?_eq_error (source : Bytes) {size : Int} (h : size ≤ 0) :
    load? source size = .error ⟨size⟩ := by
  unfold load?
  rw [(Tape.blank?_eq_error_iff size).mpr h]
  rfl

section Loaded

variable {source : Bytes} {size : Int} {m : Machine} (hm : load? source size = .ok m)

include hm

theorem code_of_load? : m.code = source.toArray := by
  obtain ⟨n, -, rfl⟩ := load?_eq_ok_iff.mp hm
  rfl

theorem isHalted_of_load? : m.isHalted = false := by
  obtain ⟨n, -, rfl⟩ := load?_eq_ok_iff.mp hm
  rfl

theorem ne_running_of_load? : m.status ≠ .running := by
  obtain ⟨n, -, rfl⟩ := load?_eq_ok_iff.mp hm
  exact Status.noConfusion

end Loaded

/-! ## The five kinds of step -/

/-- The tape and the output of a machine. -/
def store (m : Machine) : Store := ⟨m.tape, m.output⟩

theorem halt?_eq_none {m : Machine} (h : m.isHalted = false) : m.halt? = none :=
  (Status.halt?_eq_none_iff m.status).mpr h

/-- The next step is of a bracket that has to look for its partner: an opening one on a zero cell,
or a closing one on any other. -/
def Scans (m : Machine) : Prop :=
  (m.code[m.index]? = some openByte ∧ m.tape.read = 0) ∨
    (m.code[m.index]? = some closeByte ∧ m.tape.read ≠ 0)

/-- The machine after the byte `b` has acted on its store. -/
def advance (m : Machine) (b : UInt8) : Machine where
  code := m.code
  tape := (m.store.act b).tape
  index := m.index + 1
  output := (m.store.act b).output
  status := m.status.begin
  steps := m.steps + 1

/-- The machine after a bracket has landed on `j`. -/
def land (m : Machine) (j : Nat) : Machine :=
  { m with index := j, status := m.status.begin, steps := m.steps + 1 }

/-- The fault of a bracket `b` without a partner. -/
def fault (m : Machine) (b : UInt8) : Unbalanced :=
  if b = openByte then .noClose m.index else .noOpen m.index

variable {m : Machine}

theorem live_advance (hl : m.isHalted = false) (b : UInt8) : (m.advance b).isHalted = false := by
  show m.status.begin.isHalted = false
  rw [Status.isHalted_begin]
  exact hl

theorem live_land (hl : m.isHalted = false) (j : Nat) : (m.land j).isHalted = false := by
  show m.status.begin.isHalted = false
  rw [Status.isHalted_begin]
  exact hl

theorem step_of_halted (h : m.isHalted = true) : m.step = m.rest := by
  rw [step, if_pos h]

theorem step_of_end (hl : m.isHalted = false) (he : m.code[m.index]? = none) :
    m.step = (m.stop .finished).rest := by
  rw [step, if_neg (by rw [hl]; exact Bool.false_ne_true), he]

theorem step_of_some {b : UInt8} (hl : m.isHalted = false) (hb : m.code[m.index]? = some b) :
    m.step = { m with status := m.status.begin }.execute b := by
  rw [step, if_neg (by rw [hl]; exact Bool.false_ne_true), hb]

theorem getElem?_open {b : UInt8} (hb : m.code[m.index]? = some b)
    (hc : Command.ofByte? b = some .loopOpen) : m.code[m.index]? = some openByte := by
  rw [hb, Command.ofByte?_eq_some_iff.mp hc]
  rfl

theorem getElem?_close {b : UInt8} (hb : m.code[m.index]? = some b)
    (hc : Command.ofByte? b = some .loopClose) : m.code[m.index]? = some closeByte := by
  rw [hb, Command.ofByte?_eq_some_iff.mp hc]
  rfl

/-- A byte that does not scan acts on the store, and the machine moves on. -/
theorem step_of_plain {b : UInt8} (hl : m.isHalted = false) (hb : m.code[m.index]? = some b)
    (hs : ¬ m.Scans) :
    m.step = (m.advance b).executed m.index b (m.store.emitted b) none := by
  rw [step_of_some hl hb]
  unfold execute advance Store.act Store.emitted
  cases hc : Command.ofByte? b with
  | none => rfl
  | some c =>
    cases c with
    | loopOpen =>
      have hr : m.tape.read ≠ 0 := fun h => hs (.inl ⟨getElem?_open hb hc, h⟩)
      simp only [if_neg hr]
      rfl
    | loopClose =>
      have hr : m.tape.read = 0 := by
        by_contra h
        exact hs (.inr ⟨getElem?_close hb hc, h⟩)
      simp only [if_pos hr]
      rfl
    | right => rfl
    | left => rfl
    | increment => rfl
    | decrement => rfl
    | output => rfl

/-- A bracket that scans is decided by the answer of its scan. -/
theorem step_of_scans {b : UInt8} (hl : m.isHalted = false) (hb : m.code[m.index]? = some b)
    (hs : m.Scans) :
    m.step =
      { m with status := m.status.begin }.jump b (partnerOf? m.code m.index) (m.fault b) := by
  rw [step_of_some hl hb]
  rcases hs with ⟨ho, hr⟩ | ⟨hc, hr⟩
  · obtain rfl : b = openByte := by rw [ho] at hb; exact (Option.some.inj hb).symm
    rw [partnerOf?_open ho]
    exact if_pos hr
  · obtain rfl : b = closeByte := by rw [hc] at hb; exact (Option.some.inj hb).symm
    rw [partnerOf?_close hc]
    exact if_neg hr

theorem step_of_partner {b : UInt8} {j : Nat} (hl : m.isHalted = false)
    (hb : m.code[m.index]? = some b) (hs : m.Scans) (hj : partnerOf? m.code m.index = some j) :
    m.step = (m.land j).executed m.index b none none := by
  rw [step_of_scans hl hb hs, hj]
  rfl

theorem step_of_no_partner {b : UInt8} (hl : m.isHalted = false)
    (hb : m.code[m.index]? = some b) (hs : m.Scans) (hj : partnerOf? m.code m.index = none) :
    m.step = (m.stop .unbalanced).executed m.index b none (some (m.fault b)) := by
  rw [step_of_scans hl hb hs, hj]
  rfl

/-- **The five kinds of step**, each with its condition and its whole result. -/
theorem step_cases (m : Machine) :
    (m.isHalted = true ∧ m.step = m.rest) ∨
    (m.isHalted = false ∧ m.code[m.index]? = none ∧ m.step = (m.stop .finished).rest) ∨
    (∃ b, m.isHalted = false ∧ m.code[m.index]? = some b ∧ ¬ m.Scans ∧
      m.step = (m.advance b).executed m.index b (m.store.emitted b) none) ∨
    (∃ b j, m.isHalted = false ∧ m.code[m.index]? = some b ∧ m.Scans ∧
      partnerOf? m.code m.index = some j ∧ m.step = (m.land j).executed m.index b none none) ∨
    (∃ b, m.isHalted = false ∧ m.code[m.index]? = some b ∧ m.Scans ∧
      partnerOf? m.code m.index = none ∧
      m.step = (m.stop .unbalanced).executed m.index b none (some (m.fault b))) := by
  cases hl : m.isHalted with
  | true => exact .inl ⟨rfl, step_of_halted hl⟩
  | false =>
    cases hb : m.code[m.index]? with
    | none => exact .inr (.inl ⟨rfl, rfl, step_of_end hl hb⟩)
    | some b =>
      by_cases hs : m.Scans
      · cases hj : partnerOf? m.code m.index with
        | some j =>
          exact .inr (.inr (.inr (.inl ⟨b, j, rfl, rfl, hs, rfl, step_of_partner hl hb hs hj⟩)))
        | none =>
          exact .inr (.inr (.inr (.inr ⟨b, rfl, rfl, hs, rfl, step_of_no_partner hl hb hs hj⟩)))
      · exact .inr (.inr (.inl ⟨b, rfl, rfl, hs, step_of_plain hl hb hs⟩))

/-- No step hands the machine to the timer. -/
theorem running_of_step (h : m.step.machine.status = .running) :
    m.status = .running := by
  obtain ⟨hh, hm⟩ | ⟨hh, he, hm⟩ | ⟨b, hh, hb, hn, hm⟩ | ⟨b, j, hh, hb, hc, hj, hm⟩ |
    ⟨b, hh, hb, hc, hj, hm⟩ := m.step_cases
  · rw [hm] at h
    exact h
  · rw [hm] at h
    exact absurd h nofun
  · rw [hm] at h
    exact (Status.begin_eq_running_iff m.status).mp h
  · rw [hm] at h
    exact (Status.begin_eq_running_iff m.status).mp h
  · rw [hm] at h
    exact absurd h nofun

/-- A step leaves the machine with the timer that drives it, unless it halts it. -/
theorem running_step (h : m.status = .running) (hl : m.step.machine.isHalted = false) :
    m.step.machine.status = .running := by
  obtain ⟨hh, hm⟩ | ⟨hh, he, hm⟩ | ⟨b, hh, hb, hn, hm⟩ | ⟨b, j, hh, hb, hc, hj, hm⟩ |
    ⟨b, hh, hb, hc, hj, hm⟩ := m.step_cases
  · rw [hm]
    exact h
  · rw [hm] at hl
    exact absurd hl (Bool.noConfusion : true ≠ false)
  · rw [hm]
    exact (Status.begin_eq_running_iff m.status).mpr h
  · rw [hm]
    exact (Status.begin_eq_running_iff m.status).mpr h
  · rw [hm] at hl
    exact absurd hl (Bool.noConfusion : true ≠ false)

/-- No step leaves a machine ready. -/
theorem status_step_ne_ready (m : Machine) : m.step.machine.status ≠ .ready := by
  obtain ⟨hh, hm⟩ | ⟨-, -, hm⟩ | ⟨b, -, -, -, hm⟩ | ⟨b, j, -, -, -, -, hm⟩ | ⟨b, -, -, -, -, hm⟩ :=
    m.step_cases
  · obtain ⟨r, hr⟩ := Status.isHalted_iff.mp hh
    rw [hm]
    show m.status ≠ .ready
    rw [hr]
    exact nofun
  · rw [hm]
    exact nofun
  · rw [hm]
    exact m.status.begin_ne_ready
  · rw [hm]
    exact m.status.begin_ne_ready
  · rw [hm]
    exact nofun

/-- No step changes the program. -/
theorem step_code (m : Machine) : m.step.machine.code = m.code := by
  obtain ⟨-, hm⟩ | ⟨-, -, hm⟩ | ⟨b, -, -, -, hm⟩ | ⟨b, j, -, -, -, -, hm⟩ | ⟨b, -, -, -, -, hm⟩ :=
    m.step_cases
  all_goals
    rw [hm]
    rfl

/-- A step reports the halt state that it leaves. -/
theorem step_result_halt (m : Machine) : m.step.result.halt = m.step.machine.halt? := by
  obtain ⟨-, hm⟩ | ⟨-, -, hm⟩ | ⟨b, -, -, -, hm⟩ | ⟨b, j, -, -, -, -, hm⟩ | ⟨b, -, -, -, -, hm⟩ :=
    m.step_cases
  all_goals
    rw [hm]
    rfl

/-- A step of a live machine executes the byte that it stands on. -/
theorem step_result_command (m : Machine) :
    m.step.result.command = if m.isHalted = true then none else m.code[m.index]? := by
  obtain ⟨hh, hm⟩ | ⟨hh, hb, hm⟩ | ⟨b, hh, hb, -, hm⟩ | ⟨b, j, hh, hb, -, -, hm⟩ |
    ⟨b, hh, hb, -, -, hm⟩ := m.step_cases
  · rw [hm, if_pos hh]
    rfl
  all_goals
    rw [hm, if_neg (ne_true_of_eq_false hh), hb]
    rfl

/-- A fault is found by the step that halts the machine as unbalanced, and by no other. -/
theorem isSome_step_fault_iff (m : Machine) :
    m.step.fault.isSome = true ↔
      m.isHalted = false ∧ m.step.machine.halt? = some .unbalanced := by
  obtain ⟨hh, hm⟩ | ⟨hh, -, hm⟩ | ⟨b, hh, -, -, hm⟩ | ⟨b, j, hh, -, -, -, hm⟩ |
    ⟨b, hh, -, -, -, hm⟩ := m.step_cases
  · rw [hm]
    simp [rest, hh]
  · rw [hm]
    simp [rest, stop, halt?, Status.halt?]
  · have hbegin : (m.advance b).halt? = none := by
      rw [halt?, advance, Status.halt?_begin]
      exact halt?_eq_none hh
    rw [hm]
    simp [executed, hbegin]
  · have hbegin : (m.land j).halt? = none := by
      rw [halt?, land, Status.halt?_begin]
      exact halt?_eq_none hh
    rw [hm]
    simp [executed, hbegin]
  · rw [hm]
    simp [executed, stop, halt?, Status.halt?, hh]

/-- A step that finds a fault halts the machine. -/
theorem halted_of_fault {fault : Unbalanced} (h : m.step.fault = some fault) :
    m.step.machine.isHalted = true := by
  have hhalt := ((isSome_step_fault_iff m).mp (by rw [h]; rfl)).2
  rw [isHalted, Status.halt?_eq_some_iff.mp hhalt]
  rfl

/-- A step that leaves the machine live finds no fault. -/
theorem fault_eq_none_of_live (h : m.step.machine.isHalted = false) : m.step.fault = none := by
  cases hf : m.step.fault with
  | none => rfl
  | some fault => exact absurd (halted_of_fault hf) (ne_true_of_eq_false h)

/-- A bracket that scans lands on its partner, or finds a fault when it has none. -/
theorem step_lands_iff (hl : m.isHalted = false) (hs : m.Scans) (j : Nat) :
    (m.step.fault = none ∧ m.step.machine.index = j) ↔ partnerOf? m.code m.index = some j := by
  obtain ⟨b, hb⟩ : ∃ b, m.code[m.index]? = some b := by
    rcases hs with ⟨h, -⟩ | ⟨h, -⟩
    · exact ⟨_, h⟩
    · exact ⟨_, h⟩
  cases hj : partnerOf? m.code m.index with
  | some k =>
    rw [step_of_partner hl hb hs hj, Option.some.injEq]
    exact ⟨fun h => h.2, fun h => ⟨rfl, h⟩⟩
  | none =>
    rw [step_of_no_partner hl hb hs hj]
    exact ⟨fun h => absurd h.1 nofun, nofun⟩

/-! ## Runs -/

/-- The results of `n` steps, in order. -/
def trace : Nat → Machine → List Stepped
  | 0, _ => []
  | n + 1, m => m.step :: trace n m.step.machine

/-- What the steps of a run report, in order. -/
def reports (m : Machine) (n : Nat) : List StepReport :=
  (m.trace n).map Stepped.result

theorem stepN_add (a b : Nat) (m : Machine) : stepN (a + b) m = stepN b (stepN a m) := by
  induction a generalizing m with
  | zero => rw [Nat.zero_add]; rfl
  | succ a ih =>
    rw [Nat.add_right_comm]
    exact ih m.step.machine

theorem stepN_succ_last (n : Nat) (m : Machine) : stepN (n + 1) m = (stepN n m).step.machine :=
  stepN_add n 1 m

theorem code_stepN (m : Machine) (n : Nat) : (stepN n m).code = m.code := by
  induction n generalizing m with
  | zero => rfl
  | succ n ih => exact (ih m.step.machine).trans m.step_code

theorem trace_add (a b : Nat) (m : Machine) :
    trace (a + b) m = trace a m ++ trace b (stepN a m) := by
  induction a generalizing m with
  | zero => rw [Nat.zero_add]; rfl
  | succ a ih =>
    rw [Nat.add_right_comm, trace, ih m.step.machine]
    rfl

theorem trace_succ_last (n : Nat) (m : Machine) :
    trace (n + 1) m = trace n m ++ [(stepN n m).step] :=
  trace_add n 1 m

theorem length_trace (n : Nat) (m : Machine) : (trace n m).length = n := by
  induction n generalizing m with
  | zero => rfl
  | succ n ih => rw [trace, List.length_cons, ih]

theorem reports_add (a b : Nat) (m : Machine) :
    reports m (a + b) = reports m a ++ reports (stepN a m) b := by
  unfold reports
  rw [trace_add, List.map_append]

theorem length_reports (n : Nat) (m : Machine) : (reports m n).length = n := by
  unfold reports
  rw [List.length_map, length_trace]

theorem getElem?_reports {i n : Nat} (h : i < n) (m : Machine) :
    (reports m n)[i]? = some (stepN i m).step.result := by
  induction n generalizing i m with
  | zero => exact absurd h (Nat.not_lt_zero i)
  | succ n ih =>
    cases i with
    | zero => rfl
    | succ i => exact ih (Nat.lt_of_succ_lt_succ h) m.step.machine

/-- A halted machine is at rest for good. -/
theorem stepN_of_halted (h : m.isHalted = true) (n : Nat) : stepN n m = m := by
  induction n with
  | zero => rfl
  | succ n ih =>
    rw [stepN, step_of_halted h]
    exact ih

/-- What stays the same once the machine is halted is the same after one number of steps that halts
it and after another. -/
theorem eq_of_halted_of_add {α : Type} {f : Nat → α}
    (hf : ∀ a d, (m.stepN a).isHalted = true → f (a + d) = f a) {a b : Nat}
    (ha : (m.stepN a).isHalted = true) (hb : (m.stepN b).isHalted = true) : f a = f b := by
  rcases Nat.le_total a b with hle | hle
  · obtain ⟨d, rfl⟩ := Nat.exists_eq_add_of_le hle
    exact (hf a d ha).symm
  · obtain ⟨d, rfl⟩ := Nat.exists_eq_add_of_le hle
    exact hf b d hb

/-- Halted after one number of steps and after another, a machine is the same. -/
theorem stepN_eq_of_halted {a b : Nat} (ha : (m.stepN a).isHalted = true)
    (hb : (m.stepN b).isHalted = true) : m.stepN a = m.stepN b := by
  refine eq_of_halted_of_add (f := fun n => m.stepN n) (fun a d h => ?_) ha hb
  rw [stepN_add, stepN_of_halted h]

/-- A machine that is live after some steps was live before. -/
theorem live_of_stepN {n : Nat} (hl : (m.stepN n).isHalted = false) : m.isHalted = false := by
  cases hh : m.isHalted with
  | false => rfl
  | true =>
    rw [stepN_of_halted hh, hh] at hl
    exact absurd hl nofun

/-- A run from a machine that has not halted holds a fault exactly when it ends unbalanced. -/
theorem isSome_findSome?_fault_iff (hl : m.isHalted = false) (n : Nat) :
    ((m.trace n).findSome? Stepped.fault).isSome = true ↔
      (m.stepN n).halt? = some .unbalanced := by
  induction n with
  | zero =>
    have : m.halt? = none := halt?_eq_none hl
    simp [trace, stepN, this]
  | succ n ih =>
    rw [trace_succ_last, stepN_succ_last, List.findSome?_append, Option.isSome_or, Bool.or_eq_true,
      ih, List.findSome?_singleton, isSome_step_fault_iff]
    constructor
    · rintro (hn | ⟨-, hn⟩)
      · have hhalt : (m.stepN n).isHalted = true := congrArg Option.isSome hn
        rw [step_of_halted hhalt]
        exact hn
      · exact hn
    · intro hn
      cases hhalt : (m.stepN n).isHalted with
      | true =>
        rw [step_of_halted hhalt] at hn
        exact .inl hn
      | false => exact .inr ⟨rfl, hn⟩

/-- The fault that a run found, if it did. -/
def foundFault (m : Machine) (n : Nat) : Option Unbalanced :=
  (m.trace n).findSome? Stepped.fault

/-- What is read off the reports of a run grows by what is read off the last one. -/
theorem filterMap_reports_succ {α : Type} (f : StepReport → Option α) (m : Machine) (n : Nat) :
    (m.reports (n + 1)).filterMap f =
      (m.reports n).filterMap f ++ (f (m.stepN n).step.result).toList := by
  unfold reports
  rw [trace_succ_last, List.map_append, List.filterMap_append]
  cases hf : f (m.stepN n).step.result <;> simp [hf]

/-- A run that has not ended has found no fault. -/
theorem foundFault_of_live (hl : m.isHalted = false) {n : Nat}
    (hn : (m.stepN n).isHalted = false) : m.foundFault n = none := by
  rw [← Option.not_isSome_iff_eq_none]
  intro hsome
  have := (isSome_findSome?_fault_iff hl n).mp hsome
  rw [halt?_eq_none hn] at this
  exact absurd this nofun

/-- A run finds one fault at most: a step that finds one is the first to do so. -/
theorem foundFault_succ {m : Machine} (hl : m.isHalted = false) (n : Nat) :
    m.foundFault (n + 1) = (m.stepN n).step.fault.or (m.foundFault n) := by
  have hfound : m.foundFault (n + 1) = (m.foundFault n).or (m.stepN n).step.fault := by
    unfold foundFault
    rw [trace_succ_last, List.findSome?_append, List.findSome?_singleton]
  cases hf : (m.stepN n).step.fault with
  | none => rw [hfound, hf, Option.or_none, Option.none_or]
  | some e =>
    -- the machine was live, so no fault was found before
    have hlive := ((isSome_step_fault_iff (m.stepN n)).mp (by rw [hf]; rfl)).1
    rw [hfound, hf, foundFault_of_live hl hlive]
    rfl

end Machine

end TapeDeck
