import Mathlib.Data.Nat.Find
import Mathlib.Order.Bounds.Basic
import TapeDeck.Machine.Drive
import TapeDeck.Proofs.Machine.Calls

/-!
# When a driven run is over

Both drivers are loops with a bound on their rounds, so that a program which goes on for ever has no
answer. What they answer does not depend on the bound. A run is over after the first number of steps
at which the machine is halted or its observer has asked for an end; a driver has an answer, given
enough rounds, exactly when there is such a number (`runPaced_returns_iff`, `runAll_returns_iff`).

`watched` follows the observer along the plain steps of a machine: what it has seen after `n` of
them, and what it asked for at the last. Nothing an observer can ask for changes these steps: a
pause or a cancellation ends the run before another step is made.

The two loops test for the end at different places. `Rounds` is what they share: a loop that answers
at a position where the run is over, and elsewhere either answers for the next position or goes on
to it.
-/

namespace TapeDeck

/-! ## Loops with bounded rounds -/

/-- `n` is the first position from `j` on at which it is over. -/
def FirstFrom (ended : Nat → Prop) (j n : Nat) : Prop :=
  IsLeast {k | j ≤ k ∧ ended k} n

section FirstFrom

variable {ended : Nat → Prop} {j n : Nat}

theorem FirstFrom.self (hj : ended j) : FirstFrom ended j j :=
  ⟨⟨Nat.le_refl j, hj⟩, fun _ hk => hk.1⟩

theorem exists_firstFrom (h : ∃ n, ended n) : ∃ n, FirstFrom ended 0 n := by
  classical
  exact ⟨Nat.find h, ⟨Nat.zero_le _, Nat.find_spec h⟩, fun _ hk => Nat.find_min' h hk.2⟩

theorem FirstFrom.not_ended (h : FirstFrom ended j n) {k : Nat} (hj : j ≤ k) (hk : k < n) :
    ¬ ended k := by
  intro hend
  have : n ≤ k := h.2 ⟨hj, hend⟩
  omega

/-- Where it is not yet over, the first position is further on. -/
theorem firstFrom_succ (hj : ¬ ended j) : FirstFrom ended j n ↔ FirstFrom ended (j + 1) n := by
  have hset : {k | j ≤ k ∧ ended k} = {k | j + 1 ≤ k ∧ ended k} := by
    ext k
    constructor
    · rintro ⟨hle, hend⟩
      have hne : k ≠ j := fun e => hj (e ▸ hend)
      exact ⟨by omega, hend⟩
    · rintro ⟨hle, hend⟩
      exact ⟨by omega, hend⟩
  unfold FirstFrom
  rw [hset]

end FirstFrom

/-- A loop over positions with bounded rounds. Where it is over the loop answers; elsewhere it
answers for the next position, where it is over then, or goes on to it. Only `live` positions are
gone on to. -/
structure Rounds {α : Type} (loop : Nat → Nat → Option α) (live ended : Nat → Prop)
    (result : Nat → α) : Prop where
  dry : ∀ j, loop 0 j = none
  stop : ∀ j, live j → ended j → ∀ r, loop (r + 1) j = some (result j)
  next : ∀ j, live j → ¬ ended j →
    (ended (j + 1) ∧ ∀ r, loop (r + 1) j = some (result (j + 1))) ∨
      (live (j + 1) ∧ ∀ r, loop (r + 1) j = loop r (j + 1))

namespace Rounds

variable {α : Type} {loop : Nat → Nat → Option α} {live ended : Nat → Prop} {result : Nat → α}

theorem first_of_returns (h : Rounds loop live ended result) {r j : Nat} {o : α} (hj : live j)
    (hr : loop r j = some o) : ∃ n, FirstFrom ended j n ∧ o = result n := by
  induction r generalizing j with
  | zero =>
    rw [h.dry] at hr
    exact absurd hr nofun
  | succ r ih =>
    by_cases hend : ended j
    · rw [h.stop j hj hend] at hr
      exact ⟨j, .self hend, (Option.some.inj hr).symm⟩
    · rcases h.next j hj hend with ⟨hend', hloop⟩ | ⟨hj', hloop⟩
      · rw [hloop] at hr
        exact ⟨j + 1, (firstFrom_succ hend).mpr (.self hend'), (Option.some.inj hr).symm⟩
      · rw [hloop] at hr
        obtain ⟨n, hn, ho⟩ := ih hj' hr
        exact ⟨n, (firstFrom_succ hend).mpr hn, ho⟩

theorem returns_of_first (h : Rounds loop live ended result) {j n : Nat} (hj : live j)
    (hn : FirstFrom ended j n) : ∃ r, loop r j = some (result n) := by
  -- by the number of positions still to go
  obtain ⟨d, hd⟩ : ∃ d, n = j + d := Nat.exists_eq_add_of_le hn.1.1
  induction d generalizing j with
  | zero =>
    obtain rfl : n = j := hd
    exact ⟨1, h.stop n hj hn.1.2 0⟩
  | succ d ih =>
    have hend : ¬ ended j := hn.not_ended (Nat.le_refl j) (by omega)
    have hn' := (firstFrom_succ hend).mp hn
    rcases h.next j hj hend with ⟨hend', hloop⟩ | ⟨hj', hloop⟩
    · rw [hn'.unique (FirstFrom.self hend')]
      exact ⟨1, hloop 0⟩
    · obtain ⟨r, hr⟩ := ih hj' hn' (by omega)
      exact ⟨r + 1, (hloop r).trans hr⟩

/-- **A loop answers exactly when it is over somewhere**, and then for the first such position. -/
theorem returns_iff (h : Rounds loop live ended result) {j : Nat} (hj : live j) (o : α) :
    (∃ r, loop r j = some o) ↔ ∃ n, FirstFrom ended j n ∧ o = result n := by
  constructor
  · rintro ⟨r, hr⟩
    exact h.first_of_returns hj hr
  · rintro ⟨n, hn, rfl⟩
    exact h.returns_of_first hj hn

end Rounds

/-! ## What an observer sees -/

/-- What an observer is shown of a step. -/
def Stepped.observation (s : Stepped) : Observation := ⟨s.result, s.machine.status⟩

/-- An observer along the plain steps of a machine: its state after `n` of them, and what it asked
for at the last. Before the first step only a cancellation may have been asked for. -/
def watched {σ : Type} (observe : Observer σ) (cancelled : Bool) (seen : σ) (m : Machine) :
    Nat → σ × Signal
  | 0 => (seen, { cancel := cancelled })
  | n + 1 => observe (watched observe cancelled seen m n).1 (m.stepN n).step.observation

namespace Machine

/-- The error after `n` steps of a run, with a cancellation asked for or not. A halted machine has
only the fault of its last step to report. -/
def endError (m : Machine) (cancel : Bool) : Nat → Option RunError
  | 0 => if cancel then some .cancelled else none
  | n + 1 =>
    if (m.stepN (n + 1)).isHalted then (m.stepN n).step.fault.map .unbalanced
    else if cancel then some .cancelled
    else none

variable {m : Machine} {n : Nat} {cancel : Bool}

theorem endError_of_live (h : n = 0 ∨ (m.stepN n).isHalted = false) :
    m.endError cancel n = if cancel then some .cancelled else none := by
  cases n with
  | zero => rfl
  | succ n =>
    rw [endError, h.resolve_left (Nat.succ_ne_zero n)]
    exact if_neg Bool.false_ne_true

theorem endError_of_halted (h : (m.stepN (n + 1)).isHalted = true) :
    m.endError cancel (n + 1) = (m.stepN n).step.fault.map .unbalanced :=
  if_pos h

/-! ## Who drives -/

theorem pause_of_ne_running (h : m.status ≠ .running) : m.pause = m := by
  have hs : m.status.pause = m.status := by
    revert h
    cases m.status <;> simp [Status.pause]
  unfold pause
  rw [hs]

theorem status_pause_ne_running (m : Machine) : m.pause.status ≠ .running := by
  unfold pause
  cases m.status <;> simp [Status.pause]

theorem ne_running_of_halted (h : m.isHalted = true) : m.status ≠ .running := by
  obtain ⟨r, hr⟩ := Status.isHalted_iff.mp h
  rw [hr]
  exact nofun

theorem pause_of_halted (h : m.isHalted = true) : m.pause = m :=
  pause_of_ne_running (ne_running_of_halted h)

theorem pause_apply (s : Signal) (m : Machine) : (s.apply m).pause = m.pause := by
  unfold Signal.apply
  split
  · exact pause_of_ne_running m.status_pause_ne_running
  · rfl

theorem apply_of_ne_running (s : Signal) (h : m.status ≠ .running) : s.apply m = m := by
  unfold Signal.apply
  split
  · exact pause_of_ne_running h
  · rfl

/-- A timer keeps the machine until it halts. -/
theorem running_stepN (h : m.status = .running) (hl : (m.stepN n).isHalted = false) :
    (m.stepN n).status = .running := by
  induction n generalizing m with
  | zero => exact h
  | succ n ih => exact ih (running_step h (live_of_stepN hl)) hl

/-- No number of steps hands the machine to a timer. -/
theorem ne_running_stepN (h : m.status ≠ .running) (n : Nat) : (m.stepN n).status ≠ .running := by
  induction n generalizing m with
  | zero => exact h
  | succ n ih => exact ih fun hr => h (running_of_step hr)

/-- A machine that has been handed over is driven by the timer, unless it is halted. -/
theorem run_running_or_halted (m : Machine) : m.run.status = .running ∨ m.run.isHalted = true := by
  unfold run isHalted
  cases m.status <;> simp [Status.run, Status.isHalted, Status.halt?]

end Machine

/-! ## The paced driver -/

section Paced

variable {σ : Type} (observe : Observer σ) (cancelled : Bool) (seen : σ) (m : Machine)

/-- A paced run is over after `n` steps: the machine is halted, or a pause or a cancellation has
been asked for. -/
def PacedOver (n : Nat) : Prop :=
  (m.stepN n).isHalted = true ∨ (watched observe cancelled seen m n).2.pause = true ∨
    (watched observe cancelled seen m n).2.cancel = true

/-- How a paced run that is over after `n` steps ends: the machine is taken back from its timer. -/
def pacedEnd (n : Nat) : Outcome σ where
  machine := (m.stepN n).pause
  seen := (watched observe cancelled seen m n).1
  error := m.endError (watched observe cancelled seen m n).2.cancel n

/-- A round of the paced loop whose step halts the machine is the last. -/
theorem pacedLoop_of_halts {m : Machine} (hs : m.status = .running)
    (hh : m.step.machine.isHalted = true) (r : Nat) :
    pacedLoop observe (r + 1) false seen m =
      some ⟨m.step.machine, (observe seen m.step.observation).1,
        m.step.fault.map .unbalanced⟩ := by
  have happly (s : Signal) : s.apply m.step.machine = m.step.machine :=
    Machine.apply_of_ne_running s (Machine.ne_running_of_halted hh)
  have hhalt : m.step.result.halt.isSome = true := by
    rw [Machine.step_result_halt]
    exact hh
  rw [pacedLoop, if_neg Bool.false_ne_true, if_neg (not_not_intro hs)]
  cases hf : m.step.fault with
  | some fault => simp only [hf, happly, Option.map_some, Stepped.observation]
  | none => simp only [hf, happly, hhalt, if_true, Option.map_none, Stepped.observation]

/-- A round of the paced loop whose step leaves the machine live goes on to the next. -/
theorem pacedLoop_of_live {m : Machine} (hs : m.status = .running)
    (hl : m.step.machine.isHalted = false) (r : Nat) :
    pacedLoop observe (r + 1) false seen m =
      pacedLoop observe r (observe seen m.step.observation).2.cancel
        (observe seen m.step.observation).1
        ((observe seen m.step.observation).2.apply m.step.machine) := by
  have hhalt : m.step.result.halt.isSome = false := by
    rw [Machine.step_result_halt]
    exact hl
  rw [pacedLoop, if_neg Bool.false_ne_true, if_neg (not_not_intro hs)]
  simp only [Machine.fault_eq_none_of_live hl, hhalt, Bool.false_eq_true, if_false,
    Stepped.observation]

/-- Where a paced run is over and nobody has cancelled it, no timer drives the machine any more. -/
theorem PacedOver.idle {j : Nat} (h : PacedOver observe cancelled seen m j)
    (hc : (watched observe cancelled seen m j).2.cancel = false) :
    ((watched observe cancelled seen m j).2.apply (m.stepN j)).status ≠ .running := by
  rcases h with hh | hp | hc'
  · have hidle := Machine.ne_running_of_halted hh
    rw [Machine.apply_of_ne_running _ hidle]
    exact hidle
  · rw [Signal.apply, if_pos hp]
    exact (m.stepN j).status_pause_ne_running
  · exact absurd hc' (ne_true_of_eq_false hc)

/-- The paced loop as a loop over the number of steps made. It goes on from a step only if that step
has left the machine live; at the start the machine may be halted. -/
theorem pacedRounds (hm : m.status = .running ∨ m.isHalted = true) :
    Rounds
      (fun r j =>
        pacedLoop observe r (watched observe cancelled seen m j).2.cancel
          (watched observe cancelled seen m j).1
          ((watched observe cancelled seen m j).2.apply (m.stepN j)))
      (fun j => j = 0 ∨ (m.stepN j).isHalted = false)
      (PacedOver observe cancelled seen m) (pacedEnd observe cancelled seen m) where
  dry j := rfl
  stop j hlive hover r := by
    rw [pacedEnd, Machine.endError_of_live hlive, pacedLoop]
    cases hc : (watched observe cancelled seen m j).2.cancel with
    | true => simp only [if_true, Machine.pause_apply]
    | false =>
      -- the loop sees by the status that it has to end
      have hidle := hover.idle observe cancelled seen m hc
      rw [if_neg Bool.false_ne_true, if_pos hidle, if_neg Bool.false_ne_true,
        ← Machine.pause_apply, Machine.pause_of_ne_running hidle]
  next j hlive hover := by
    obtain ⟨hh, hp, hc⟩ : (m.stepN j).isHalted = false ∧
        (watched observe cancelled seen m j).2.pause = false ∧
        (watched observe cancelled seen m j).2.cancel = false := by
      simpa [PacedOver] using hover
    have hrun : (m.stepN j).status = .running := by
      have hlive := Machine.live_of_stepN hh
      exact Machine.running_stepN (hm.resolve_right (ne_true_of_eq_false hlive)) hh
    have happly : (watched observe cancelled seen m j).2.apply (m.stepN j) = m.stepN j := by
      rw [Signal.apply, if_neg (ne_true_of_eq_false hp)]
    simp only [hc, happly]
    cases hhalt : (m.stepN (j + 1)).isHalted with
    | true =>
      -- whatever the observer asks for now comes too late
      refine .inl ⟨.inl hhalt, fun r => ?_⟩
      rw [pacedEnd, Machine.endError_of_halted hhalt, Machine.pause_of_halted hhalt]
      rw [Machine.stepN_succ_last] at hhalt ⊢
      exact pacedLoop_of_halts observe _ hrun hhalt r
    | false =>
      refine .inr ⟨.inr rfl, fun r => ?_⟩
      rw [Machine.stepN_succ_last] at hhalt ⊢
      exact pacedLoop_of_live observe _ hrun hhalt r

/-- **When and how a paced run ends.** -/
theorem runPaced_returns_iff (o : Outcome σ) :
    (∃ rounds, runPaced observe rounds cancelled seen m = some o) ↔
      ∃ n, FirstFrom (PacedOver observe cancelled seen m.run) 0 n ∧
        o = pacedEnd observe cancelled seen m.run n :=
  (pacedRounds observe cancelled seen m.run m.run_running_or_halted).returns_iff (.inl rfl) o

end Paced

/-! ## The driver without a timer -/

section All

variable {σ : Type} (observe : Observer σ) (cancelled : Bool) (seen : σ) (m : Machine)

/-- A run without a timer is over after `n` steps: the machine is halted, or a cancellation has been
asked for. -/
def AllOver (n : Nat) : Prop :=
  (m.stepN n).isHalted = true ∨ (watched observe cancelled seen m n).2.cancel = true

/-- How a run without a timer that is over after `n` steps ends. -/
def allEnd (n : Nat) : Outcome σ where
  machine := m.stepN n
  seen := (watched observe cancelled seen m n).1
  error := m.endError (watched observe cancelled seen m n).2.cancel n

/-- A round of the loop whose step finds a fault is the last. -/
theorem runAll_of_fault {m : Machine} {fault : Unbalanced} (hl : m.isHalted = false)
    (hs : m.step.machine.status ≠ .running) (hf : m.step.fault = some fault) (r : Nat) :
    runAll observe (r + 1) false seen m =
      some ⟨m.step.machine, (observe seen m.step.observation).1, some (.unbalanced fault)⟩ := by
  rw [runAll, if_neg (ne_true_of_eq_false hl), if_neg Bool.false_ne_true]
  simp only [hf, Machine.apply_of_ne_running _ hs, Stepped.observation]

/-- A round of the loop whose step finds none goes on to the next, be the machine halted or not. -/
theorem runAll_of_no_fault {m : Machine} (hl : m.isHalted = false)
    (hs : m.step.machine.status ≠ .running) (hf : m.step.fault = none) (r : Nat) :
    runAll observe (r + 1) false seen m =
      runAll observe r (observe seen m.step.observation).2.cancel
        (observe seen m.step.observation).1 m.step.machine := by
  rw [runAll, if_neg (ne_true_of_eq_false hl), if_neg Bool.false_ne_true]
  simp only [hf, Machine.apply_of_ne_running _ hs, Stepped.observation]

/-- The loop without a timer as a loop over the number of steps made. It goes on from every step
that has found no fault, and sees only then whether the machine is halted. -/
theorem allRounds (hs : m.status ≠ .running) (hl : m.isHalted = false) :
    Rounds
      (fun r j =>
        runAll observe r (watched observe cancelled seen m j).2.cancel
          (watched observe cancelled seen m j).1 (m.stepN j))
      (fun j => ∀ k, j = k + 1 → (m.stepN k).step.fault = none)
      (AllOver observe cancelled seen m) (allEnd observe cancelled seen m) where
  dry j := rfl
  stop j hlive hover r := by
    rw [allEnd, runAll]
    cases hh : (m.stepN j).isHalted with
    | true =>
      cases j with
      | zero => exact absurd (hl.symm.trans hh) Bool.false_ne_true
      | succ k =>
        -- the step that halted the machine found no fault, or the loop had ended with it
        rw [Machine.endError_of_halted hh, hlive k rfl, if_pos rfl, Option.map_none]
    | false =>
      have hc : (watched observe cancelled seen m j).2.cancel = true :=
        hover.resolve_left (ne_true_of_eq_false hh)
      rw [if_neg Bool.false_ne_true, if_pos hc, Machine.endError_of_live (.inr hh), if_pos hc]
  next j hlive hover := by
    obtain ⟨hh, hc⟩ : (m.stepN j).isHalted = false ∧
        (watched observe cancelled seen m j).2.cancel = false := by
      simpa [AllOver] using hover
    have hidle : (m.stepN j).step.machine.status ≠ .running := by
      rw [← Machine.stepN_succ_last]
      exact Machine.ne_running_stepN hs (j + 1)
    simp only [hc]
    cases hf : (m.stepN j).step.fault with
    | some fault =>
      have hhalt : (m.stepN (j + 1)).isHalted = true := by
        rw [Machine.stepN_succ_last]
        exact Machine.halted_of_fault hf
      refine .inl ⟨.inl hhalt, fun r => ?_⟩
      rw [allEnd, Machine.endError_of_halted hhalt, hf, Machine.stepN_succ_last]
      exact runAll_of_fault observe _ hh hidle hf r
    | none =>
      refine .inr ⟨fun k hk => ?_, fun r => ?_⟩
      · obtain rfl : j = k := Nat.succ.inj hk
        exact hf
      · rw [Machine.stepN_succ_last]
        exact runAll_of_no_fault observe _ hh hidle hf r

/-- **When and how a run without a timer ends**, of a live machine that no timer drives. -/
theorem runAll_returns_iff (hs : m.status ≠ .running) (hl : m.isHalted = false) (o : Outcome σ) :
    (∃ rounds, runAll observe rounds cancelled seen m = some o) ↔
      ∃ n, FirstFrom (AllOver observe cancelled seen m) 0 n ∧
        o = allEnd observe cancelled seen m n :=
  (allRounds observe cancelled seen m hs hl).returns_iff (j := 0) (fun _ h => absurd h nofun) o

end All

/-! ## Recorders -/

/-- What a recorder has asked for after `n` steps. -/
def Interrupts.asked (interrupts : Interrupts) (cancelled : Bool) : Nat → Signal
  | 0 => { cancel := cancelled }
  | n + 1 =>
    { pause := interrupts.pauseAt = some (n + 1), cancel := interrupts.cancelAt = some (n + 1) }

/-- A recorder has seen every step, and asks for what it is set to, whatever it sees. -/
theorem watched_recording (interrupts : Interrupts) (cancelled : Bool) (m : Machine) (n : Nat) :
    watched (recording interrupts) cancelled #[] m n =
      (((m.trace n).map Stepped.observation).toArray, interrupts.asked cancelled n) := by
  induction n with
  | zero => rfl
  | succ n ih =>
    have hlen : ((m.trace n).map Stepped.observation).length = n := by
      rw [List.length_map, Machine.length_trace]
    rw [watched, ih, Machine.trace_succ_last]
    simp [recording, Interrupts.asked, hlen]

end TapeDeck
