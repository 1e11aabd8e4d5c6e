import TapeDeck.Proofs.Machine.Drivers

/-!
# Interrupted runs go on where they stopped

A session is one call of the paced driver with a recorder: it may be cancelled in advance, and its
observer may pause it or cancel it at an observation of its choice. `Sessions` are sessions that all
return, made one after another on one machine.

A session that returns has made some number of plain steps, none of them on a halted machine, and
leaves a machine that is paused or halted (`Session.Returns.steps`, `Session.Returns.status`). The
next one starts on a machine alike to the one that these steps give. So the numbers add up
(`Sessions.steps`): together the sessions have made the first steps of one plain run, each once.

**`sessions_lose_nothing`** says so of a machine that was just loaded. A last session without an
interruption brings the machine where one session without interruptions would have brought it.
-/

namespace TapeDeck

/-- One call of the paced driver with a recorder. -/
structure Session where
  /-- Whether it is cancelled before its first step. -/
  cancelled : Bool := false
  /-- The observations at which it is paused or cancelled. -/
  interrupts : Interrupts := {}
  deriving DecidableEq, Repr

/-- What a recorded run ends with. -/
abbrev Recorded := Outcome (Array Observation)

/-- The results that were observed. -/
def Recorded.results (o : Recorded) : List StepReport :=
  o.seen.toList.map Observation.result

namespace Session

/-- A session that nothing interrupts. -/
def plain : Session := {}

/-- Called on the machine `m`, the session returns with the outcome `o`. -/
def Returns (s : Session) (m : Machine) (o : Recorded) : Prop :=
  ∃ rounds, runPaced (recording s.interrupts) rounds s.cancelled #[] m = some o

/-- The session is over after `n` steps of `m`. -/
def Over (s : Session) (m : Machine) (n : Nat) : Prop :=
  (m.stepN n).isHalted = true ∨ (s.interrupts.asked s.cancelled n).pause = true ∨
    (s.interrupts.asked s.cancelled n).cancel = true

variable {s : Session} {m : Machine} {o : Recorded}

theorem pacedOver_iff (n : Nat) :
    PacedOver (recording s.interrupts) s.cancelled #[] m.run n ↔ s.Over m n := by
  rw [PacedOver, Over, watched_recording, ((Machine.Alike.run m).stepN n).isHalted_eq]

/-- **What a session does**: plain steps of a live machine, up to the first number at which it is
over. -/
theorem returns_iff :
    s.Returns m o ↔
      ∃ n, FirstFrom (s.Over m) 0 n ∧
        o = pacedEnd (recording s.interrupts) s.cancelled #[] m.run n := by
  have hover : PacedOver (recording s.interrupts) s.cancelled #[] m.run = s.Over m :=
    funext fun n => propext (pacedOver_iff n)
  rw [Returns, runPaced_returns_iff, hover]

theorem Returns.steps (h : s.Returns m o) :
    ∃ n, s.Over m n ∧ (∀ k < n, (m.stepN k).isHalted = false) ∧
      o.results = m.reports n ∧ o.machine = (m.run.stepN n).pause := by
  obtain ⟨n, hn, rfl⟩ := returns_iff.mp h
  refine ⟨n, hn.1.2, fun k hk => ?_, ?_, rfl⟩
  · have hnot := hn.not_ended (Nat.zero_le k) hk
    exact Bool.of_not_eq_true fun hh => hnot (.inl hh)
  · rw [Recorded.results, pacedEnd, watched_recording, List.map_map]
    exact ((Machine.Alike.run m).reports n).symm

theorem Returns.status (h : s.Returns m o) :
    o.machine.status = .paused ∨ o.machine.isHalted = true := by
  obtain ⟨n, -, -, -, hm⟩ := h.steps
  rw [hm]
  exact m.status_pause_run_stepN n

/-- Only the halt ends a session that nothing interrupts. -/
theorem plain_over_iff (m : Machine) (n : Nat) : plain.Over m n ↔ (m.stepN n).isHalted = true := by
  cases n <;> simp [Over, plain, Interrupts.asked]

theorem Returns.halted (h : plain.Returns m o) : o.machine.isHalted = true := by
  obtain ⟨n, hover, -, -, hm⟩ := h.steps
  rw [hm, ← (m.alike_pause_run_stepN n).isHalted_eq]
  exact (plain_over_iff m n).mp hover

/-- A session that nothing interrupts returns on a machine that halts. -/
theorem plain_returns {n : Nat} (h : (m.stepN n).isHalted = true) : ∃ o, plain.Returns m o := by
  obtain ⟨k, hk⟩ := exists_firstFrom ⟨n, (plain_over_iff m n).mpr h⟩
  exact ⟨_, returns_iff.mpr ⟨k, hk, rfl⟩⟩

end Session

/-! ## One after another -/

/-- `Sessions m ss os m'`: the sessions `ss`, called one after another on the machine `m`, all
return, with the outcomes `os`, and leave the machine `m'`. -/
inductive Sessions : Machine → List Session → List Recorded → Machine → Prop
  | nil (m : Machine) : Sessions m [] [] m
  | cons {m m' : Machine} {s : Session} {ss : List Session} {o : Recorded} {os : List Recorded}
      (first : s.Returns m o) (rest : Sessions o.machine ss os m') :
      Sessions m (s :: ss) (o :: os) m'

namespace Sessions

variable {m m' : Machine} {ss : List Session} {os : List Recorded}

/-- **The steps of sessions add up** to the first steps of a plain run. -/
theorem steps (h : Sessions m ss os m') :
    ∃ n, (∀ k < n, (m.stepN k).isHalted = false) ∧
      os.flatMap Recorded.results = m.reports n ∧ (m.stepN n).Alike m' := by
  induction h with
  | nil m => exact ⟨0, fun k hk => absurd hk (Nat.not_lt_zero k), rfl, .refl m⟩
  | @cons m m' s ss o os first rest ih =>
    obtain ⟨a, -, hlive, hresults, hm⟩ := first.steps
    obtain ⟨b, hlive', hresults', hm'⟩ := ih
    -- the next session finds the machine of `a` plain steps, but for who drives it
    have halike : (m.stepN a).Alike o.machine := by
      rw [hm]
      exact m.alike_pause_run_stepN a
    refine ⟨a + b, fun k hk => ?_, ?_, ?_⟩
    · by_cases hka : k < a
      · exact hlive k hka
      · obtain ⟨d, rfl⟩ := Nat.exists_eq_add_of_le (Nat.le_of_not_lt hka)
        rw [Machine.stepN_add, (halike.stepN d).isHalted_eq]
        exact hlive' d (by omega)
    · rw [List.flatMap_cons, hresults, hresults', Machine.reports_add, halike.reports b]
    · rw [Machine.stepN_add]
      exact (halike.stepN b).trans hm'

theorem status (h : Sessions m ss os m') :
    ∀ o ∈ os, o.machine.status = .paused ∨ o.machine.isHalted = true := by
  induction h with
  | nil m => exact fun o ho => absurd ho List.not_mem_nil
  | cons first rest ih =>
    intro o ho
    rcases List.mem_cons.mp ho with rfl | ho
    · exact first.status
    · exact ih o ho

/-- The last session leaves the machine at the end. -/
theorem last (h : Sessions m ss os m') {s : Session} (hs : ss.getLast? = some s) :
    ∃ m₁ o, s.Returns m₁ o ∧ o.machine = m' := by
  induction h with
  | nil m => exact absurd hs nofun
  | @cons m m' s' ss o os first rest ih =>
    cases rest with
    | nil =>
      obtain rfl : s' = s := Option.some.inj hs
      exact ⟨m, o, first, rfl⟩
    | cons first' rest' => exact ih (by rwa [List.getLast?_cons_cons] at hs)

end Sessions

/-- Where a machine is halted, a session that nothing interrupts leaves it. -/
theorem Session.Returns.machine_eq {m m' : Machine} {o : Recorded} {n : Nat}
    (h : plain.Returns m o) (halike : (m.stepN n).Alike m') (hm' : m'.isHalted = true) :
    o.machine = m' := by
  obtain ⟨k, hover, -, -, hm⟩ := h.steps
  have hn : (m.stepN n).isHalted = true := halike.isHalted_eq.trans hm'
  have hk : m.stepN k = m.stepN n := Machine.stepN_eq_of_halted ((plain_over_iff m k).mp hover) hn
  have ho : (m.stepN n).Alike o.machine := by
    rw [← hk, hm]
    exact m.alike_pause_run_stepN k
  exact (ho.symm.trans halike).eq_of_halted (ho.isHalted_eq.symm.trans hn)

/-- **Interrupted runs lose and repeat nothing.** Let sessions with any interruptions be made one
after another on a machine that was just loaded, and let them all return. The results observed in
all of them together are those of as many plain steps of the machine, and only the last of them can
report a halt. Every session leaves the machine paused or halted. If the last one was not
interrupted, one session without interruptions on the loaded machine returns, and leaves the same
machine. -/
theorem sessions_lose_nothing (source : Bytes) (n : Nat) :
    ∃ m, Machine.load? source ((n + 1 : Nat) : Int) = .ok m ∧
      ∀ ss os m', Sessions m ss os m' →
        let results := os.flatMap Recorded.results
        results = m.reports results.length ∧
        (∀ i r, results[i]? = some r → r.halt ≠ none → results.length = i + 1) ∧
        (∀ o ∈ os, o.machine.status = .paused ∨ ∃ reason, o.machine.status = .halted reason) ∧
        (ss.getLast? = some .plain →
          (∃ o, Session.plain.Returns m o) ∧
          ∀ o, Session.plain.Returns m o → o.machine = m') := by
  refine ⟨_, Machine.load?_succ source n, ?_⟩
  generalize Machine.start source (Tape.blank n) = m
  intro ss os m' h results
  obtain ⟨n, hlive, hresults, halike⟩ := h.steps
  have hlen : results.length = n := by
    rw [show results = m.reports n from hresults, Machine.length_reports]
  refine ⟨hlen ▸ hresults, fun i r hi hr => ?_, fun o ho => ?_, fun hlast => ?_⟩
  · have hin : i < n := by
      rw [← hlen]
      exact (List.getElem?_eq_some_iff.mp hi).1
    have hhalt : (m.stepN (i + 1)).isHalted = true := by
      rw [show results = m.reports n from hresults, Machine.getElem?_reports hin,
        Option.some.injEq] at hi
      rw [← hi, Machine.step_result_halt, ← Machine.stepN_succ_last] at hr
      exact Option.isSome_iff_ne_none.mpr hr
    -- a step that is observed was made on a live machine, so no step came after this one
    by_contra hne
    exact absurd hhalt (ne_true_of_eq_false (hlive (i + 1) (by omega)))
  · exact (h.status o ho).imp_right Status.isHalted_iff.mp
  · -- a session without an interruption returns only from a halted machine
    obtain ⟨m₁, o₁, hreturns, rfl⟩ := h.last hlast
    have hhalt := hreturns.halted
    exact ⟨Session.plain_returns (halike.isHalted_eq.trans hhalt),
      fun o ho => ho.machine_eq halike hhalt⟩

/-- A session that is paused at its first observation, one that is cancelled in advance, and one
that runs on to a bracket without a partner. -/
theorem sessions_lose_nothing_unbalanced :
    let ss : List Session :=
      [{ interrupts := { pauseAt := some 1 } }, { cancelled := true }, .plain]
    ∃ m m' os, Machine.load? [0x2B, 0x2E, 0x5D] 1 = .ok m ∧ Sessions m ss os m' ∧
      os.map (fun o => o.results.length) = [1, 0, 2] ∧
      os.flatMap Recorded.results = m.reports 3 ∧
      m'.halt? = some .unbalanced ∧
      ∃ o, Session.plain.Returns m o ∧ o.machine = m' := by
  intro ss
  have h : ∃ m' os, Sessions (.start [0x2B, 0x2E, 0x5D] (Tape.blank 0)) ss os m' ∧
      os.map (fun o => o.results.length) = [1, 0, 2] ∧ m'.halt? = some .unbalanced :=
    ⟨_, _, .cons ⟨2, rfl⟩ (.cons ⟨1, rfl⟩ (.cons ⟨2, rfl⟩ (.nil _))), rfl, rfl⟩
  obtain ⟨m', os, hsessions, hlengths, hhalt⟩ := h
  obtain ⟨m, hm, hall⟩ := sessions_lose_nothing [0x2B, 0x2E, 0x5D] 0
  obtain rfl : Machine.start [0x2B, 0x2E, 0x5D] (Tape.blank 0) = m := Except.ok.inj hm
  obtain ⟨hresults, -, -, hlast⟩ := hall ss os m' hsessions
  obtain ⟨⟨o, ho⟩, heq⟩ := hlast rfl
  have hlen : (os.flatMap Recorded.results).length = 3 := by
    rw [List.length_flatMap, hlengths]
    rfl
  rw [hlen] at hresults
  exact ⟨_, m', os, rfl, hsessions, hlengths, hresults, hhalt, o, ho, heq o ho⟩

end TapeDeck
