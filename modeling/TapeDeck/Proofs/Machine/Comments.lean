import TapeDeck.Proofs.Machine.Step
import TapeDeck.Proofs.Program.Comments
import TapeDeck.Sound.Track

/-!
# Comments do not matter

A machine that runs a program and one that runs it without its comments go side by side. `Abreast`
is what they share: tape, output and halt state are the same, and the position of the second is the
number of commands before the position of the first. On a comment the first machine steps alone
(`Abreast.skip`); anywhere else both step, and the two steps show the same but for the position
(`Abreast.step`).

The lone steps cannot go on for ever: they move forward in the program (`Abreast.catchUp`). A loop
that holds nothing but comments is no exception, since its brackets are commands. So each run can
follow the other, as far as the other goes (`Abreast.follow`, `Abreast.lead`).

**`comments_transparent`** reads this off for a program and a tape size.
-/

namespace TapeDeck

/-! ## What executed steps show -/

/-- An executed step, wherever in the program it stands. -/
structure Deed where
  command : UInt8
  /-- The tape after the step. -/
  tape : Tape
  /-- The byte that was output, if any was. -/
  output : Option UInt8
  /-- The halt state after the step. -/
  halt : Option HaltReason

/-- What a report says of the step that was executed, if one was. -/
def StepReport.deed? (r : StepReport) : Option Deed :=
  r.command.map fun b => ⟨b, r.tape, r.output, r.halt⟩

namespace Machine

/-- The executed ones among the first `n` steps, in order. -/
def deeds (m : Machine) (n : Nat) : List Deed :=
  (m.reports n).filterMap StepReport.deed?

/-- Those of them that executed a command. -/
def commandDeeds (m : Machine) (n : Nat) : List Deed :=
  (m.deeds n).filter fun d => isCommand d.command

/-- A new track, cued with what the first `n` steps executed. -/
def cuedTrack (m : Machine) (n : Nat) : Track :=
  Track.empty.cueAll ((m.reports n).filterMap StepReport.command)

variable {m : Machine}

theorem deeds_succ (m : Machine) (n : Nat) :
    m.deeds (n + 1) = m.step.result.deed?.toList ++ m.step.machine.deeds n := by
  have hreports : m.reports (n + 1) = m.step.result :: m.step.machine.reports n := rfl
  unfold deeds
  rw [hreports, List.filterMap_cons]
  cases m.step.result.deed? <;> rfl

theorem deeds_add (m : Machine) (a b : Nat) :
    m.deeds (a + b) = m.deeds a ++ (m.stepN a).deeds b := by
  unfold deeds
  rw [reports_add, List.filterMap_append]

theorem commandDeeds_succ (m : Machine) (n : Nat) :
    m.commandDeeds (n + 1) =
      m.step.result.deed?.toList.filter (fun d => isCommand d.command) ++
        m.step.machine.commandDeeds n := by
  unfold commandDeeds
  rw [deeds_succ, List.filter_append]

theorem commandDeeds_add (m : Machine) (a b : Nat) :
    m.commandDeeds (a + b) = m.commandDeeds a ++ (m.stepN a).commandDeeds b := by
  unfold commandDeeds
  rw [deeds_add, List.filter_append]

/-- A halted machine executes nothing. -/
theorem deeds_of_halted (h : m.isHalted = true) (n : Nat) : m.deeds n = [] := by
  induction n with
  | zero => rfl
  | succ n ih =>
    rw [deeds_succ, step_of_halted h]
    exact ih

/-- Halted after one number of steps and after another, a machine has executed the same. -/
theorem deeds_eq_of_halted {a b : Nat} (ha : (m.stepN a).isHalted = true)
    (hb : (m.stepN b).isHalted = true) : m.deeds a = m.deeds b := by
  refine eq_of_halted_of_add (fun a d h => ?_) ha hb
  rw [deeds_add, deeds_of_halted h, List.append_nil]

end Machine

/-- A track is determined by the commands that were executed. -/
theorem Machine.cuedTrack_eq (m : Machine) (n : Nat) :
    m.cuedTrack n = Track.empty.cueAll ((m.commandDeeds n).map Deed.command) := by
  have hbyte : StepReport.command = fun r => r.deed?.map Deed.command := by
    funext r
    unfold StepReport.deed?
    cases r.command <;> rfl
  have hbytes : (m.reports n).filterMap StepReport.command = (m.deeds n).map Deed.command := by
    unfold deeds
    rw [List.map_filterMap, hbyte]
  unfold cuedTrack commandDeeds
  rw [hbytes, ← Track.cueAll_filter, List.filter_map]
  rfl

/-! ## Side by side -/

/-- A comment acts on nothing. -/
theorem Store.act_comment (w : Store) {b : UInt8} (h : isCommand b = false) : w.act b = w := by
  have hnone : Command.ofByte? b = none := by simpa [isCommand] using h
  unfold act
  rw [hnone]

/-- The next step of the machine is over a comment. -/
def Machine.OnComment (m : Machine) : Prop :=
  m.isHalted = false ∧ ∃ b, m.code[m.index]? = some b ∧ isCommand b = false

/-- The machine `m` runs the program `source`, the machine `m'` runs it without its comments, and
they have come equally far. -/
structure Abreast (source : Bytes) (m m' : Machine) : Prop where
  code_eq : m.code = source.toArray
  strip_eq : m'.code = (stripComments source).toArray
  index_eq : m'.index = commandsBefore source m.index
  tape_eq : m'.tape = m.tape
  output_eq : m'.output = m.output
  halt_eq : m'.halt? = m.halt?

namespace Abreast

variable {source : Bytes} {m m' : Machine}

theorem start (source : Bytes) (t : Tape) :
    Abreast source (.start source t) (.start (stripComments source) t) where
  code_eq := rfl
  strip_eq := rfl
  index_eq := rfl
  tape_eq := rfl
  output_eq := rfl
  halt_eq := rfl

theorem isHalted_eq (h : Abreast source m m') : m'.isHalted = m.isHalted :=
  congrArg Option.isSome h.halt_eq

theorem store_eq (h : Abreast source m m') : m'.store = m.store := by
  unfold Machine.store
  rw [h.tape_eq, h.output_eq]

theorem getElem?_source (h : Abreast source m m') : m.code[m.index]? = source[m.index]? := by
  rw [h.code_eq, List.getElem?_toArray]

theorem getElem?_command (h : Abreast source m m') {b : UInt8} (hb : m.code[m.index]? = some b)
    (hc : isCommand b = true) : m'.code[m'.index]? = some b := by
  rw [h.strip_eq, h.index_eq]
  exact getElem?_strip (h.getElem?_source.symm.trans hb) hc

theorem getElem?_end (h : Abreast source m m') (hb : m.code[m.index]? = none) :
    m'.code[m'.index]? = none := by
  rw [h.strip_eq, h.index_eq]
  exact getElem?_strip_end (h.getElem?_source.symm.trans hb)

/-- On a command, both machines look for a partner or neither does. -/
theorem scans_iff (h : Abreast source m m') {b : UInt8} (hb : m.code[m.index]? = some b)
    (hc : isCommand b = true) : m'.Scans ↔ m.Scans := by
  unfold Machine.Scans
  rw [h.getElem?_command hb hc, hb, h.tape_eq]

/-- The partner of a command in the stripped program. -/
theorem partnerOf?_eq (h : Abreast source m m') {b : UInt8} (hb : m.code[m.index]? = some b)
    (hc : isCommand b = true) :
    partnerOf? m'.code m'.index = (partnerOf? m.code m.index).map (commandsBefore source) := by
  rw [h.strip_eq, h.index_eq, h.code_eq]
  exact partnerOf?_strip (h.getElem?_source.symm.trans hb) hc

/-- **Over a comment the first machine steps alone.** -/
theorem skip (h : Abreast source m m') (hm : m.OnComment) :
    Abreast source m.step.machine m' ∧ m.step.machine.index = m.index + 1 ∧
      m.step.result.deed?.toList.filter (fun d => isCommand d.command) = [] := by
  obtain ⟨hl, b, hb, hc⟩ := hm
  have hs : ¬ m.Scans := by
    rintro (⟨hb', -⟩ | ⟨hb', -⟩)
    · obtain rfl : b = openByte := Option.some.inj (hb.symm.trans hb')
      exact absurd hc (by decide)
    · obtain rfl : b = closeByte := Option.some.inj (hb.symm.trans hb')
      exact absurd hc (by decide)
  have hact : m.store.act b = m.store := m.store.act_comment hc
  have hhalt : m'.halt? = (m.advance b).halt? := by
    rw [h.halt_eq]
    exact (Status.halt?_begin m.status).symm
  rw [Machine.step_of_plain hl hb hs]
  refine ⟨⟨h.code_eq, h.strip_eq, ?_, ?_, ?_, hhalt⟩, rfl, ?_⟩
  · rw [h.index_eq]
    exact (commandsBefore_succ_comment (h.getElem?_source.symm.trans hb) hc).symm
  · show m'.tape = (m.store.act b).tape
    rw [hact]
    exact h.tape_eq
  · show m'.output = (m.store.act b).output
    rw [hact]
    exact h.output_eq
  · simp [StepReport.deed?, Machine.executed, hc]

/-- **Anywhere else both machines step**, and the steps show the same but for the position. -/
theorem step (h : Abreast source m m') (hm : ¬ m.OnComment) :
    Abreast source m.step.machine m'.step.machine ∧
      m.step.result.deed? = m'.step.result.deed? := by
  have hcommand {b : UInt8} (hl : m.isHalted = false) (hb : m.code[m.index]? = some b) :
      isCommand b = true := by
    by_contra hc
    exact hm ⟨hl, b, hb, Bool.of_not_eq_true hc⟩
  have hbegin : m'.status.begin.halt? = m.status.begin.halt? := by
    rw [Status.halt?_begin, Status.halt?_begin]
    exact h.halt_eq
  obtain ⟨hl, hstep⟩ | ⟨hl, hb, hstep⟩ | ⟨b, hl, hb, hs, hstep⟩ | ⟨b, j, hl, hb, hs, hj, hstep⟩ |
    ⟨b, hl, hb, hs, hj, hstep⟩ := m.step_cases
  · rw [hstep, Machine.step_of_halted (h.isHalted_eq.trans hl)]
    exact ⟨h, rfl⟩
  · rw [hstep, Machine.step_of_end (h.isHalted_eq.trans hl) (h.getElem?_end hb)]
    exact ⟨⟨h.code_eq, h.strip_eq, h.index_eq, h.tape_eq, h.output_eq, rfl⟩, rfl⟩
  · have hc := hcommand hl hb
    have hs' : ¬ m'.Scans := fun hs' => hs ((h.scans_iff hb hc).mp hs')
    have hhalt : (m'.advance b).halt? = (m.advance b).halt? := hbegin
    have htape : (m'.advance b).tape = (m.advance b).tape := by
      show (m'.store.act b).tape = (m.store.act b).tape
      rw [h.store_eq]
    rw [hstep, Machine.step_of_plain (h.isHalted_eq.trans hl) (h.getElem?_command hb hc) hs']
    refine ⟨⟨h.code_eq, h.strip_eq, ?_, htape, ?_, hhalt⟩, ?_⟩
    · show m'.index + 1 = commandsBefore source (m.index + 1)
      rw [h.index_eq, commandsBefore_succ (h.getElem?_source.symm.trans hb) hc]
    · show (m'.store.act b).output = (m.store.act b).output
      rw [h.store_eq]
    · simp only [StepReport.deed?, Machine.executed, htape, hhalt, h.store_eq]
  · have hc := hcommand hl hb
    have hj' : partnerOf? m'.code m'.index = some (commandsBefore source j) := by
      rw [h.partnerOf?_eq hb hc, hj, Option.map_some]
    have hhalt : (m'.land (commandsBefore source j)).halt? = (m.land j).halt? := hbegin
    rw [hstep, Machine.step_of_partner (h.isHalted_eq.trans hl) (h.getElem?_command hb hc)
      ((h.scans_iff hb hc).mpr hs) hj']
    refine ⟨⟨h.code_eq, h.strip_eq, rfl, h.tape_eq, h.output_eq, hhalt⟩, ?_⟩
    simp only [StepReport.deed?, Machine.executed, hhalt]
    simp only [Machine.land, h.tape_eq]
  · have hc := hcommand hl hb
    have hj' : partnerOf? m'.code m'.index = none := by
      rw [h.partnerOf?_eq hb hc, hj, Option.map_none]
    rw [hstep, Machine.step_of_no_partner (h.isHalted_eq.trans hl) (h.getElem?_command hb hc)
      ((h.scans_iff hb hc).mpr hs) hj']
    refine ⟨⟨h.code_eq, h.strip_eq, h.index_eq, h.tape_eq, h.output_eq, rfl⟩, ?_⟩
    simp only [StepReport.deed?, Machine.executed, Machine.stop, h.tape_eq]
    rfl

/-- A step that is not over a comment executes a command, if it executes anything. -/
theorem filter_deed? (hm : ¬ m.OnComment) :
    m.step.result.deed?.toList.filter (fun d => isCommand d.command) =
      m.step.result.deed?.toList := by
  refine List.filter_eq_self.mpr fun d hd => ?_
  obtain ⟨b, hb, rfl⟩ := Option.map_eq_some_iff.mp (Option.mem_toList.mp hd)
  rw [Machine.step_result_command] at hb
  split at hb
  · exact absurd hb nofun
  · rename_i hl
    by_contra hc
    exact hm ⟨Bool.of_not_eq_true hl, b, hb, Bool.of_not_eq_true hc⟩

/-! ## Each run follows the other -/

/-- **The stripped program follows**: after as many of its steps as the whole program has executed
commands. -/
theorem follow (h : Abreast source m m') (k : Nat) :
    ∃ k', Abreast source (m.stepN k) (m'.stepN k') ∧ m.commandDeeds k = m'.deeds k' := by
  induction k generalizing m m' with
  | zero => exact ⟨0, h, rfl⟩
  | succ k ih =>
    by_cases hm : m.OnComment
    · obtain ⟨hnext, -, hdeed⟩ := h.skip hm
      obtain ⟨k', hk', hdeeds⟩ := ih hnext
      refine ⟨k', hk', ?_⟩
      rw [Machine.commandDeeds_succ, hdeed, hdeeds, List.nil_append]
    · obtain ⟨hnext, hdeed⟩ := h.step hm
      obtain ⟨k', hk', hdeeds⟩ := ih hnext
      refine ⟨k' + 1, hk', ?_⟩
      rw [Machine.commandDeeds_succ, filter_deed? hm, hdeed, hdeeds, Machine.deeds_succ]

/-- Past the comments, the whole program stands where the stripped one does. -/
theorem catchUp (h : Abreast source m m') :
    ∃ c, Abreast source (m.stepN c) m' ∧ ¬ (m.stepN c).OnComment ∧ m.commandDeeds c = [] := by
  -- by the number of bytes that are left: each comment takes one of them
  induction hn : source.length - m.index using Nat.strongRecOn generalizing m with
  | ind n ih =>
    by_cases hm : m.OnComment
    · obtain ⟨hnext, hindex, hdeed⟩ := h.skip hm
      obtain ⟨-, b, hb, -⟩ := hm
      have hlt : m.index < source.length :=
        (List.getElem?_eq_some_iff.mp (h.getElem?_source.symm.trans hb)).1
      obtain ⟨c, hc, hon, hdeeds⟩ := ih _ (by omega) hnext rfl
      refine ⟨c + 1, hc, hon, ?_⟩
      rw [Machine.commandDeeds_succ, hdeed, hdeeds, List.nil_append]
    · exact ⟨0, h, hm, rfl⟩

/-- **The whole program follows**: it passes its comments before each command. -/
theorem lead (h : Abreast source m m') (k' : Nat) :
    ∃ k, Abreast source (m.stepN k) (m'.stepN k') ∧ m.commandDeeds k = m'.deeds k' := by
  induction k' generalizing m m' with
  | zero => exact ⟨0, h, rfl⟩
  | succ k' ih =>
    obtain ⟨c, hc, hon, hnone⟩ := h.catchUp
    obtain ⟨hnext, hdeed⟩ := hc.step hon
    obtain ⟨k, hk, hdeeds⟩ := ih hnext
    refine ⟨c + (k + 1), ?_, ?_⟩
    · rw [Machine.stepN_add]
      exact hk
    · rw [Machine.commandDeeds_add, hnone, List.nil_append, Machine.commandDeeds_succ,
        filter_deed? hon, hdeed, hdeeds, Machine.deeds_succ]

/-- What a run without comments executes is commands throughout. -/
theorem commandDeeds_eq (h : Abreast source m m') (k' : Nat) :
    m'.commandDeeds k' = m'.deeds k' := by
  obtain ⟨k, -, hdeeds⟩ := h.lead k'
  rw [Machine.commandDeeds, ← hdeeds, Machine.commandDeeds, List.filter_filter]
  simp only [Bool.and_self]

end Abreast

/-- **Comments are transparent.** Let a program and the same program without its comments be loaded
on tapes of one size. One run halts exactly when the other does, and then with the same tape, output
and reason, at positions that correspond, after the same commands and with the same track. Halting
or not, whatever the whole program has executed of commands, the stripped one comes to have executed
as well, and the other way round: the same commands in the same order with the same tape, output and
halt state after each, so they cue the same tones. -/
theorem comments_transparent (p : Bytes) (n : Nat) :
    ∃ m m', Machine.load? p ((n + 1 : Nat) : Int) = .ok m ∧
      Machine.load? (p.filter isCommand) ((n + 1 : Nat) : Int) = .ok m' ∧
      ((∃ k, (m.stepN k).isHalted = true) ↔ ∃ k', (m'.stepN k').isHalted = true) ∧
      (∀ k k', (m.stepN k).isHalted = true → (m'.stepN k').isHalted = true →
        (m.stepN k).tape = (m'.stepN k').tape ∧ (m.stepN k).output = (m'.stepN k').output ∧
        (m.stepN k).halt? = (m'.stepN k').halt? ∧
        (p.take (m.stepN k).index).countP isCommand = (m'.stepN k').index ∧
        m.commandDeeds k = m'.deeds k' ∧ m.cuedTrack k = m'.cuedTrack k') ∧
      (∀ k, ∃ k', m.commandDeeds k = m'.deeds k' ∧ m.cuedTrack k = m'.cuedTrack k') ∧
      (∀ k', ∃ k, m.commandDeeds k = m'.deeds k' ∧ m.cuedTrack k = m'.cuedTrack k') := by
  refine ⟨_, _, Machine.load?_succ p n, Machine.load?_succ _ n, ?_⟩
  have h : Abreast p (.start p (Tape.blank n)) (.start (p.filter isCommand) (Tape.blank n)) :=
    .start p (Tape.blank n)
  generalize Machine.start p (Tape.blank n) = m at h
  generalize Machine.start (p.filter isCommand) (Tape.blank n) = m' at h
  have htrack {k k' : Nat} (hdeeds : m.commandDeeds k = m'.deeds k') :
      m.cuedTrack k = m'.cuedTrack k' := by
    rw [m.cuedTrack_eq, m'.cuedTrack_eq, h.commandDeeds_eq, hdeeds]
  refine ⟨⟨?_, ?_⟩, fun k k' hk hk' => ?_, fun k => ?_, fun k' => ?_⟩
  · rintro ⟨k, hk⟩
    obtain ⟨k', hk', -⟩ := h.follow k
    exact ⟨k', hk'.isHalted_eq.trans hk⟩
  · rintro ⟨k', hk'⟩
    obtain ⟨k, hk, -⟩ := h.lead k'
    exact ⟨k, hk.isHalted_eq.symm.trans hk'⟩
  · obtain ⟨j, hj, hdeeds⟩ := h.follow k
    have hhalt : (m'.stepN j).isHalted = true := hj.isHalted_eq.trans hk
    rw [Machine.deeds_eq_of_halted hhalt hk'] at hdeeds
    rw [Machine.stepN_eq_of_halted hhalt hk'] at hj
    exact ⟨hj.tape_eq.symm, hj.output_eq.symm, hj.halt_eq.symm, hj.index_eq.symm, hdeeds,
      htrack hdeeds⟩
  · obtain ⟨k', -, hdeeds⟩ := h.follow k
    exact ⟨k', hdeeds, htrack hdeeds⟩
  · obtain ⟨k, -, hdeeds⟩ := h.lead k'
    exact ⟨k, hdeeds, htrack hdeeds⟩

/-- A loop with a comment in front, inside and behind: eight steps with them, five without. -/
theorem comments_transparent_loop :
    let p : Bytes := [0x23, 0x2B, 0x5B, 0x20, 0x2D, 0x5D, 0x21]
    ∃ m m', Machine.load? p 1 = .ok m ∧ Machine.load? [0x2B, 0x5B, 0x2D, 0x5D] 1 = .ok m' ∧
      (m.stepN 8).isHalted = true ∧ (m'.stepN 5).isHalted = true ∧
      (m.stepN 8).tape = (m'.stepN 5).tape ∧ (m.stepN 8).index = 7 ∧ (m'.stepN 5).index = 4 ∧
      (m'.deeds 5).length = 4 ∧ m.commandDeeds 8 = m'.deeds 5 ∧
      m.cuedTrack 8 = m'.cuedTrack 5 := by
  intro p
  obtain ⟨m, m', hm, hm', -, hend, -⟩ := comments_transparent p 0
  obtain rfl : Machine.start p (Tape.blank 0) = m := Except.ok.inj hm
  obtain rfl : Machine.start [0x2B, 0x5B, 0x2D, 0x5D] (Tape.blank 0) = m' := Except.ok.inj hm'
  obtain ⟨htape, -, -, -, hdeeds, htrack⟩ := hend 8 5 (by decide) (by decide)
  exact ⟨_, _, rfl, rfl, by decide, by decide, htape, by decide, by decide, by decide, hdeeds,
    htrack⟩

end TapeDeck
