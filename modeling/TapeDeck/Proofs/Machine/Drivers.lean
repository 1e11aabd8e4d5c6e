import TapeDeck.Proofs.Machine.Drive

/-!
# The two drivers agree

The paced driver works on a machine that has been handed to a timer, the other on the machine as it
is; the two are alike and stay so. Along both, a recorder asks for the same at the same step. So
both runs are over after the same number of steps (`pacedOver_run`), if they are over at all, and
what they end with is compared at that number: the errors (`Alike.endError`), the results
(`Alike.reports`) and the machines. These are equal as soon as a step has been made, because a first
step by hand and a timer that is taken back both leave a machine paused (`pause_run_stepN`).

**`drivers_agree`** says so for every moment of cancellation.
-/

namespace TapeDeck

namespace Machine

variable {m m' : Machine}

theorem Alike.endError (h : m.Alike m') (cancel : Bool) (n : Nat) :
    m.endError cancel n = m'.endError cancel n := by
  cases n with
  | zero => rfl
  | succ n =>
    rw [Machine.endError, Machine.endError, (h.stepN (n + 1)).isHalted_eq, (h.stepN n).step.2.1]

theorem alike_pause_run_stepN (m : Machine) (n : Nat) :
    (m.stepN n).Alike (m.run.stepN n).pause :=
  ((Alike.run m).stepN n).trans (.pause _)

/-- What a timer leaves of a machine is paused, or else it is halted. -/
theorem status_pause_run_stepN (m : Machine) (n : Nat) :
    (m.run.stepN n).pause.status = .paused ∨ (m.run.stepN n).pause.isHalted = true := by
  cases hh : (m.run.stepN n).isHalted with
  | true =>
    rw [pause_of_halted hh]
    exact .inr hh
  | false =>
    have hrun : m.run.status = .running :=
      m.run_running_or_halted.resolve_right (ne_true_of_eq_false (live_of_stepN hh))
    rw [pause, running_stepN hrun hh]
    exact .inl rfl

/-- **A timer that is taken back leaves what plain steps leave**, if there were any. -/
theorem pause_run_stepN (hs : m.status ≠ .running) (n : Nat) :
    (m.run.stepN (n + 1)).pause = m.stepN (n + 1) := by
  have halike := m.alike_pause_run_stepN (n + 1)
  rcases m.status_pause_run_stepN (n + 1) with hpaused | hhalted
  · refine (halike.eq_of_status ?_).symm
    have hlive : (m.stepN (n + 1)).isHalted = false := by
      rw [halike.isHalted_eq, isHalted, hpaused]
      rfl
    have hready : (m.stepN (n + 1)).status ≠ .ready := by
      rw [stepN_succ_last]
      exact (m.stepN n).status_step_ne_ready
    have hrunning : (m.stepN (n + 1)).status ≠ .running := ne_running_stepN hs (n + 1)
    rw [hpaused]
    exact Status.eq_paused hlive hready hrunning
  · exact halike.symm.eq_of_halted hhalted

end Machine

/-! ## Recorders that cancel -/

section Recorder

variable (cancelled : Bool) (cancelAt : Option Nat) (m : Machine)

/-- A recorder that only cancels never asks for a pause. -/
theorem pause_asked (n : Nat) :
    (Interrupts.asked { cancelAt := cancelAt } cancelled n).pause = false := by
  cases n <;> rfl

/-- Both drivers are through after the same steps. -/
theorem pacedOver_run :
    PacedOver (recording { cancelAt := cancelAt }) cancelled #[] m.run =
      AllOver (recording { cancelAt := cancelAt }) cancelled #[] m := by
  funext n
  simp only [PacedOver, AllOver, watched_recording, pause_asked, Bool.false_eq_true, false_or,
    ((Machine.Alike.run m).stepN n).isHalted_eq]

end Recorder

/-- **The two drivers agree**, whether they are cancelled in advance, at an observation or never.
One returns exactly when the other does. They return the same error, their observers have seen the
same results in the same order, and the machines are alike, and equal if a step was made at all. -/
theorem drivers_agree (source : Bytes) (n : Nat) (cancelled : Bool) (cancelAt : Option Nat) :
    ∃ m, Machine.load? source ((n + 1 : Nat) : Int) = .ok m ∧
      ((∃ rounds o, runAll (recording { cancelAt := cancelAt }) rounds cancelled #[] m = some o) ↔
        ∃ rounds o,
          runPaced (recording { cancelAt := cancelAt }) rounds cancelled #[] m = some o) ∧
      ∀ rounds rounds' o o',
        runAll (recording { cancelAt := cancelAt }) rounds cancelled #[] m = some o →
        runPaced (recording { cancelAt := cancelAt }) rounds' cancelled #[] m = some o' →
        o.error = o'.error ∧
        o.seen.toList.map Observation.result = o'.seen.toList.map Observation.result ∧
        o.machine.Alike o'.machine ∧
        (o.seen ≠ #[] → o.machine = o'.machine) := by
  refine ⟨_, Machine.load?_succ source n, ?_⟩
  have hs : (Machine.start source (Tape.blank n)).status ≠ .running := nofun
  have hl : (Machine.start source (Tape.blank n)).isHalted = false := rfl
  generalize Machine.start source (Tape.blank n) = m at hs hl
  have hall := runAll_returns_iff (recording { cancelAt := cancelAt }) cancelled #[] m hs hl
  have hpaced := runPaced_returns_iff (recording { cancelAt := cancelAt }) cancelled #[] m
  rw [pacedOver_run] at hpaced
  refine ⟨⟨?_, ?_⟩, ?_⟩
  · rintro ⟨r, o, ho⟩
    obtain ⟨k, hk, -⟩ := (hall o).mp ⟨r, ho⟩
    obtain ⟨r', ho'⟩ := (hpaced _).mpr ⟨k, hk, rfl⟩
    exact ⟨r', _, ho'⟩
  · rintro ⟨r, o, ho⟩
    obtain ⟨k, hk, -⟩ := (hpaced o).mp ⟨r, ho⟩
    obtain ⟨r', ho'⟩ := (hall _).mpr ⟨k, hk, rfl⟩
    exact ⟨r', _, ho'⟩
  · intro r r' o o' ho ho'
    obtain ⟨k, hk, rfl⟩ := (hall o).mp ⟨r, ho⟩
    obtain ⟨k', hk', rfl⟩ := (hpaced o').mp ⟨r', ho'⟩
    -- the number of steps is the first at which the run is over, so it is one and the same
    obtain rfl : k = k' := hk.unique hk'
    simp only [allEnd, pacedEnd, watched_recording]
    refine ⟨(Machine.Alike.run m).endError _ k, ?_, m.alike_pause_run_stepN k, fun hseen => ?_⟩
    · rw [List.map_map, List.map_map]
      exact (Machine.Alike.run m).reports k
    · cases k with
      | zero => exact absurd rfl hseen
      | succ k => exact (Machine.pause_run_stepN hs k).symm

/-- A cancellation at the very step that finds a bracket without a partner: both drivers report the
bracket, after three observations each. -/
theorem drivers_agree_unbalanced :
    let watch := recording { cancelAt := some 3 }
    ∃ m o o', Machine.load? [0x2B, 0x2E, 0x5D] 1 = .ok m ∧
      runAll watch 3 false #[] m = some o ∧ runPaced watch 3 false #[] m = some o' ∧
      o.error = some (.unbalanced (.noOpen 2)) ∧ o.seen.size = 3 ∧
      o'.error = some (.unbalanced (.noOpen 2)) ∧ o.machine = o'.machine := by
  intro watch
  obtain ⟨m, hm, -, hagree⟩ := drivers_agree [0x2B, 0x2E, 0x5D] 0 false (some 3)
  obtain rfl : Machine.start [0x2B, 0x2E, 0x5D] (Tape.blank 0) = m := Except.ok.inj hm
  obtain ⟨herror, -, -, hmachine⟩ := hagree 3 3 _ _ rfl rfl
  exact ⟨_, _, _, rfl, rfl, rfl, rfl, rfl, herror.symm, hmachine nofun⟩

end TapeDeck
