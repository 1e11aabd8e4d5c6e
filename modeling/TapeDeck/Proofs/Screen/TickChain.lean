import Mathlib.Data.Multiset.AddSub
import Mathlib.Logic.Relation
import TapeDeck.Proofs.Screen.Run

/-!
# One chain of ticks

A timer hands ticks back to the screen at moments of its own choosing. `Desk` is a screen with the
ticks it has asked for and not been given yet; a step of a desk is any message, another tape size,
or the delivery of any one of those ticks, each of which is delivered at most once. Pausing leaves a
tick under way, running again starts another chain, and a load leaves the ticks of the run before
under way, so the desk can hold many ticks.

`Desk.OneChain` is the invariant: no tick is of a later run than the current one, at most one is of
the current run, and while the timer drives the machine exactly one is. **`single_tick_chain`**: it
holds of every desk that can be reached, so a run driven by the timer can neither stall nor be
driven by two chains at once.
-/

namespace TapeDeck

/-- A screen, and the runs of the ticks it has asked for that have not been delivered. -/
structure Desk where
  screen : Screen
  ticks : Multiset Int

namespace Desk

/-- The ticks under way once a reaction has asked for its own. -/
def issue (asked : Option Int) (ticks : Multiset Int) : Multiset Int :=
  match asked with
  | some runId => runId ::ₘ ticks
  | none => ticks

/-- The screen is given a message, and the tick it asks for is under way. -/
def send (d : Desk) (msg : Message) : Desk where
  screen := (d.screen.update msg).screen
  ticks := issue (d.screen.update msg).tick? d.ticks

/-- One thing that can happen at a desk. -/
inductive Step : Desk → Desk → Prop
  | message (d : Desk) (msg : Message) (no_tick : ∀ runId, msg ≠ .tick runId) : Step d (d.send msg)
  | resize (d : Desk) (size : Int) : Step d { d with screen := d.screen.setTapeSize size }
  | deliver (d : Desk) (runId : Int) (under_way : runId ∈ d.ticks) :
      Step d (send { d with ticks := d.ticks.erase runId } (.tick runId))

/-- The desk of a screen that has just been opened, with the tick it asks for. -/
def opened (r : Reaction) : Desk where
  screen := r.screen
  ticks := issue r.tick? 0

/-- The desks that can be reached from a screen that has just been opened. -/
def Reach (r : Reaction) : Desk → Prop :=
  Relation.ReflTransGen Step (opened r)

/-- The invariant of the ticks under way. -/
structure OneChain (s : Screen) (ticks : Multiset Int) : Prop where
  not_ahead : ∀ runId ∈ ticks, runId ≤ s.runId
  at_most_one : ticks.count s.runId ≤ 1
  driven : s.machine.status = .running → ticks.count s.runId = 1

namespace OneChain

variable {s s' : Screen} {ticks : Multiset Int} {msg : Message} {asked : Option Int} {runId : Int}

/-- The invariant reads nothing of a screen but the run and whether the timer drives it. -/
theorem mono (h : OneChain s ticks) (hid : s'.runId = s.runId)
    (hrun : s'.machine.status = .running → s.machine.status = .running) : OneChain s' ticks where
  not_ahead := by rw [hid]; exact h.not_ahead
  at_most_one := by rw [hid]; exact h.at_most_one
  driven hr := by rw [hid]; exact h.driven (hrun hr)

/-- No tick under way is of a run to come. -/
theorem count_next (h : OneChain s ticks) : ticks.count (s.runId + 1) = 0 := by
  refine Multiset.count_eq_zero.mpr fun hmem => ?_
  have := h.not_ahead _ hmem
  omega

/-- The ticks under way that would step the machine: one while the timer drives it, else none. -/
theorem countP_accepts (h : OneChain s ticks) :
    ticks.countP (fun runId => s.accepts (.tick runId) = true) =
      if s.machine.status = .running then 1 else 0 := by
  split_ifs with hr
  · rw [← h.driven hr]
    refine Multiset.countP_congr rfl fun runId _ => propext ?_
    rw [eq_comm (a := s.runId)]
    simp [Screen.accepts, hr]
  · refine Multiset.countP_eq_zero.mpr fun runId _ hacc => hr ?_
    simp only [Screen.accepts, Bool.and_eq_true, beq_iff_eq] at hacc
    exact hacc.2

/-- A message that is no tick keeps the invariant. -/
theorem message (h : OneChain s ticks) (hc : s.Change msg s' asked)
    (hmsg : ∀ runId, msg ≠ .tick runId) : OneChain s' (issue asked ticks) := by
  cases hc with
  | ignore => exact h
  | stepKey _ idle =>
    refine h.mono s.step_runId fun hr => ?_
    rw [s.step_machine] at hr
    exact Machine.running_of_step hr
  | runKey =>
    -- a new chain starts, and no tick of the new run is under way yet
    refine ⟨fun runId hmem => ?_, ?_, fun _ => ?_⟩
    · rcases Multiset.mem_cons.mp hmem with rfl | hmem
      · exact Int.le_refl _
      · have := h.not_ahead runId hmem
        show runId ≤ s.runId + 1
        omega
    · show Multiset.count (s.runId + 1) ((s.runId + 1) ::ₘ ticks) ≤ 1
      rw [Multiset.count_cons_self, h.count_next]
    · show Multiset.count (s.runId + 1) ((s.runId + 1) ::ₘ ticks) = 1
      rw [Multiset.count_cons_self, h.count_next]
  | pauseKey =>
    refine h.mono rfl fun hr => ?_
    cases hs : s.machine.status <;> simp [Machine.pause, Status.pause, hs] at hr
  | tick => exact absurd rfl (hmsg s.runId)
  | load loaded =>
    -- the ticks of the run before stay under way, and are none of the new run's
    refine ⟨fun runId hmem => ?_, ?_, fun hr => ?_⟩
    · have := h.not_ahead runId hmem
      show runId ≤ s.runId + 1
      omega
    · show Multiset.count (s.runId + 1) ticks ≤ 1
      rw [h.count_next]
      exact Nat.zero_le 1
    · obtain ⟨n, -, rfl⟩ := Machine.load?_eq_ok_iff.mp loaded
      exact absurd hr nofun
  | refuse => exact h.mono rfl fun hr => hr

/-- The delivery of a tick that is under way keeps the invariant. -/
theorem deliver (h : OneChain s ticks) (hmem : runId ∈ ticks)
    (hc : s.Change (.tick runId) s' asked) : OneChain s' (issue asked (ticks.erase runId)) := by
  have hahead : ∀ id ∈ ticks.erase runId, id ≤ s.runId := fun id hid =>
    h.not_ahead id (Multiset.mem_of_mem_erase hid)
  cases hc with
  | ignore quiet =>
    by_cases hid : runId = s.runId
    · -- a tick of the current run that came when the machine was not driven
      have hidle : s.machine.status ≠ .running := by
        intro hr
        simp [Screen.accepts, hid, hr] at quiet
      refine ⟨hahead, ?_, fun hr => absurd hr hidle⟩
      rw [issue, hid, Multiset.count_erase_self]
      have := h.at_most_one
      omega
    · have hcount : (ticks.erase runId).count s.runId = ticks.count s.runId :=
        Multiset.count_erase_of_ne (fun e => hid e.symm) ticks
      exact ⟨hahead, by rw [issue, hcount]; exact h.at_most_one,
        fun hr => by rw [issue, hcount]; exact h.driven hr⟩
  | tick _ driven =>
    -- the one tick of the current run is used up, and replaced if the machine is still driven
    have hcount : (ticks.erase s.runId).count s.runId = 0 := by
      rw [Multiset.count_erase_self, h.driven driven]
    by_cases hnext : s.machine.step.machine.status = .running
    · rw [if_pos hnext]
      have hone : ((s.runId ::ₘ ticks.erase s.runId)).count s.runId = 1 := by
        rw [Multiset.count_cons_self, hcount]
      refine ⟨fun id hid => ?_, ?_, fun _ => ?_⟩
      · rw [s.step_runId]
        rcases Multiset.mem_cons.mp hid with rfl | hid
        · exact Int.le_refl _
        · exact hahead id hid
      · rw [s.step_runId]
        exact Nat.le_of_eq hone
      · rw [s.step_runId]
        exact hone
    · rw [if_neg hnext]
      refine ⟨by rw [s.step_runId]; exact hahead, ?_, fun hr => ?_⟩
      · rw [s.step_runId, issue, hcount]
        exact Nat.zero_le 1
      · rw [s.step_machine] at hr
        exact absurd hr hnext

end OneChain

/-- One step of a desk keeps the invariant. -/
theorem oneChain_step {d d' : Desk} (h : OneChain d.screen d.ticks) (hs : d.Step d') :
    OneChain d'.screen d'.ticks := by
  cases hs with
  | message msg no_tick => exact h.message (d.screen.change_update msg) no_tick
  | resize size => exact h.mono rfl fun hr => hr
  | deliver runId under_way => exact h.deliver under_way (d.screen.change_update (.tick runId))

theorem oneChain_reach {r : Reaction} {d : Desk}
    (h : OneChain (opened r).screen (opened r).ticks) (hd : Reach r d) :
    OneChain d.screen d.ticks := by
  induction hd with
  | refl => exact h
  | tail _ hstep ih => exact oneChain_step ih hstep

end Desk

/-- **A single live chain of ticks.** However keys, loads, other messages, new tape sizes and late
ticks follow one another, no tick under way is of a later run than the screen's, at most one is of
its run, and exactly one is while the timer drives the machine. So the ticks under way that would
step the machine are one while the timer drives it, and none when it does not. -/
theorem single_tick_chain {settings : Settings} {r : Reaction} {d : Desk}
    (opened : Screen.open? settings = .ok r) (reached : Desk.Reach r d) :
    (∀ runId ∈ d.ticks, runId ≤ d.screen.runId) ∧
      d.ticks.count d.screen.runId ≤ 1 ∧
      (d.screen.machine.status = .running → d.ticks.count d.screen.runId = 1) ∧
      d.ticks.countP (fun runId => d.screen.accepts (.tick runId) = true) =
        (if d.screen.machine.status = .running then 1 else 0) := by
  obtain ⟨speed, m, hm, hscreen, htick⟩ := Screen.open?_eq_ok opened
  obtain ⟨n, -, rfl⟩ := Machine.load?_eq_ok_iff.mp hm
  have hinit : Desk.OneChain (Desk.opened r).screen (Desk.opened r).ticks := by
    rw [Desk.opened, hscreen, htick]
    exact ⟨fun _ hmem => absurd hmem (Multiset.notMem_zero _), Nat.zero_le 1, nofun⟩
  have h := Desk.oneChain_reach hinit reached
  exact ⟨h.not_ahead, h.at_most_one, h.driven, h.countP_accepts⟩

/-- Run, pause and run again: a tick of the first run is still under way, and one of the second. -/
theorem single_tick_chain_paused :
    ∃ (r : Reaction) (d : Desk),
      Screen.open? { program := ⟨1, [], [0x2B]⟩, tapeSize := 1 } = .ok r ∧ Desk.Reach r d ∧
        d.ticks = {3, 2} ∧ d.screen.machine.status = .running ∧
        d.ticks.count d.screen.runId = 1 := by
  have hkey (k : Key) : ∀ runId, Message.key k ≠ .tick runId := fun _ => nofun
  have hreach (r : Reaction) : Desk.Reach r
      ((((Desk.opened r).send (.key { text := "r" })).send (.key { text := "p" })).send
        (.key { text := "c" })) :=
    ((Relation.ReflTransGen.single (.message _ _ (hkey _))).tail (.message _ _ (hkey _))).tail
      (.message _ _ (hkey _))
  exact ⟨_, _, rfl, hreach _, by decide, by decide,
    (@single_tick_chain { program := ⟨1, [], [0x2B]⟩, tapeSize := 1 } _ _ rfl (hreach _)).2.2.1
      (by decide)⟩

end TapeDeck
