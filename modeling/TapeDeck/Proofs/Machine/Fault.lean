import TapeDeck.Proofs.Machine.Halt
import TapeDeck.Proofs.Program.Balance

/-!
# When a machine finds its program unbalanced

A fault depends on the data: a bracket without a partner does no harm until it has to jump. Which
brackets those are is a matter of the text alone, and the listing says it. A step finds a fault
exactly when the machine is live on a bracket that the listing shows as unmatched and the current
cell makes it jump (`step_fault_iff_listing`).

So a program whose brackets form a Dyck word never makes a machine unbalanced, whatever is done with
it (`no_fault_of_balanced`). **`fault_iff_unmatched`** says both of a machine that was just loaded.
-/

namespace TapeDeck

namespace Machine

variable {m : Machine} {source : Bytes}

/-- **A step finds a fault exactly on an unmatched bracket that has to jump**, and the fault says
which. -/
theorem step_fault_iff_listing (hcode : m.code = source.toArray) (f : Unbalanced) :
    m.step.fault = some f ↔ m.isHalted = false ∧
      ((⟨m.index, openByte, none⟩ ∈ listing source ∧ m.tape.read = 0 ∧ f = .noClose m.index) ∨
        (⟨m.index, closeByte, none⟩ ∈ listing source ∧ m.tape.read ≠ 0 ∧
          f = .noOpen m.index)) := by
  have hget : m.code[m.index]? = source[m.index]? := by rw [hcode, List.getElem?_toArray]
  rw [step_fault_eq_some_iff]
  constructor
  · rintro ⟨hl, hs, hp, b, hb, rfl⟩
    rw [hcode] at hp
    refine ⟨hl, ?_⟩
    rcases hs with ⟨ho, hr⟩ | ⟨hc, hr⟩
    · obtain rfl : openByte = b := Option.some.inj (ho.symm.trans hb)
      exact .inl ⟨(mem_listing_at_iff (hget.symm.trans ho) (by decide) none).mpr hp, hr, rfl⟩
    · obtain rfl : closeByte = b := Option.some.inj (hc.symm.trans hb)
      exact .inr ⟨(mem_listing_at_iff (hget.symm.trans hc) (by decide) none).mpr hp, hr, rfl⟩
  · rintro ⟨hl, ⟨he, hr, rfl⟩ | ⟨he, hr, rfl⟩⟩
    · obtain ⟨hb, -, hp⟩ := (mem_listing_iff source _).mp he
      rw [← hget] at hb
      rw [← hcode] at hp
      exact ⟨hl, .inl ⟨hb, hr⟩, hp.symm, openByte, hb, rfl⟩
    · obtain ⟨hb, -, hp⟩ := (mem_listing_iff source _).mp he
      rw [← hget] at hb
      rw [← hcode] at hp
      exact ⟨hl, .inr ⟨hb, hr⟩, hp.symm, closeByte, hb, rfl⟩

/-- A balanced program never makes its machine unbalanced. -/
theorem Invariant.halt?_ne_unbalanced {n : Nat} (h : m.Invariant source n)
    (hbalanced : Balanced source) : m.halt? ≠ some .unbalanced := by
  intro hu
  obtain ⟨hs, hp⟩ := h.unbalanced (Status.halt?_eq_some_iff.mp hu)
  rw [h.code_eq] at hp
  refine paired_of_balanced hbalanced m.index ?_ hp
  rw [← h.code_eq]
  exact hs.imp And.left And.left

/-- **No call on a balanced program returns a fault.** -/
theorem no_fault_of_balanced (hbalanced : Balanced source) (n : Nat) (cs : List Call) :
    (∀ a ∈ (start source (Tape.blank n)).answers cs, a.2 = none) ∧
      ((start source (Tape.blank n)).calls cs).halt? ≠ some .unbalanced := by
  have hhalt := (Invariant.calls source n cs).halt?_ne_unbalanced hbalanced
  refine ⟨fun a ha => ?_, hhalt⟩
  have hcount := countP_fault_answers (m := start source (Tape.blank n)) rfl cs
  rw [if_neg hhalt, List.countP_eq_zero] at hcount
  exact Option.not_isSome_iff_eq_none.mp (hcount a ha)

end Machine

/-- **When a program is found unbalanced.** After any calls on a machine that was just loaded, a
step returns a fault exactly when the machine is not halted, is inside its program on a bracket that
the listing shows without a partner, and the current cell is zero for an opening bracket or not zero
for a closing one; the fault names that position and that kind of bracket. No bracket of the listing
is without a partner exactly when the brackets of the program form a Dyck word, and then no calls on
a tape of any size return a fault or leave the machine unbalanced. -/
theorem fault_iff_unmatched (source : Bytes) :
    (∀ n cs, ∃ m₀, Machine.load? source ((n + 1 : Nat) : Int) = .ok m₀ ∧
      let m := m₀.calls cs
      (∀ f, m.step.fault = some f ↔ m.isHalted = false ∧ m.index < source.length ∧
        ((⟨m.index, openByte, none⟩ ∈ listing source ∧ m.tape.read = 0 ∧ f = .noClose m.index) ∨
          (⟨m.index, closeByte, none⟩ ∈ listing source ∧ m.tape.read ≠ 0 ∧
            f = .noOpen m.index))) ∧
      ∀ f, m.step.fault = some f → f.message =
        if source[m.index]? = some openByte then
          "unbalanced program: no ] for [ at " ++ toString m.index
        else "unbalanced program: no [ for ] at " ++ toString m.index) ∧
    ((∀ e ∈ listing source, e.command = openByte ∨ e.command = closeByte → e.partner ≠ none) ↔
      Balanced source) ∧
    (Balanced source → ∀ n cs, ∃ m₀, Machine.load? source ((n + 1 : Nat) : Int) = .ok m₀ ∧
      (∀ a ∈ m₀.answers cs, a.2 = none) ∧ (m₀.calls cs).halt? ≠ some .unbalanced) := by
  refine ⟨fun n cs => ⟨_, Machine.load?_succ source n, ?_⟩, listing_paired_iff_balanced source,
    fun hbalanced n cs => ⟨_, Machine.load?_succ source n, ?_⟩⟩
  · have hcode := (Machine.Invariant.calls source n cs).code_eq
    generalize (Machine.start source (Tape.blank n)).calls cs = m at hcode
    refine ⟨fun f => ?_, fun f hf => ?_⟩
    · rw [Machine.step_fault_iff_listing hcode]
      refine and_congr_right fun _ => (and_iff_right_of_imp fun hcases => ?_).symm
      -- an entry of the listing is a byte of the program
      have hentry : ∃ e ∈ listing source, e.index = m.index := by
        rcases hcases with ⟨he, -⟩ | ⟨he, -⟩
        · exact ⟨_, he, rfl⟩
        · exact ⟨_, he, rfl⟩
      obtain ⟨e, he, hindex⟩ := hentry
      rw [← hindex]
      exact (List.getElem?_eq_some_iff.mp ((mem_listing_iff source e).mp he).1).1
    · obtain ⟨-, ⟨he, -, rfl⟩ | ⟨he, -, rfl⟩⟩ := (Machine.step_fault_iff_listing hcode f).mp hf
      · have hb : source[m.index]? = some openByte := ((mem_listing_iff source _).mp he).1
        rw [if_pos hb]
        rfl
      · have hb : source[m.index]? = some closeByte := ((mem_listing_iff source _).mp he).1
        rw [hb, if_neg (by decide)]
        rfl
  · exact Machine.no_fault_of_balanced hbalanced n cs

/-- A bracket that is never closed, on a zero cell, is a fault at the first step; a program with two
nested loops is balanced and never brings one. -/
theorem fault_iff_unmatched_nested :
    (∃ m, Machine.load? [0x5B, 0x2B] 1 = .ok m ∧ m.step.fault = some (.noClose 0)) ∧
      Balanced [0x2B, 0x5B, 0x5B, 0x5D, 0x2D, 0x5D] ∧
      ∀ cs, ∃ m, Machine.load? [0x2B, 0x5B, 0x5B, 0x5D, 0x2D, 0x5D] 3 = .ok m ∧
        (m.calls cs).halt? ≠ some .unbalanced := by
  obtain ⟨hfault, -, -⟩ := fault_iff_unmatched [0x5B, 0x2B]
  obtain ⟨-, hbalanced, hnever⟩ := fault_iff_unmatched [0x2B, 0x5B, 0x5B, 0x5D, 0x2D, 0x5D]
  have hnested := hbalanced.mp (by decide)
  refine ⟨?_, hnested, fun cs => ?_⟩
  · obtain ⟨m, hm, hiff, -⟩ := hfault 0 []
    obtain rfl : Machine.start [0x5B, 0x2B] (Tape.blank 0) = m := Except.ok.inj hm
    exact ⟨_, rfl, (hiff (.noClose 0)).mpr ⟨rfl, by decide, .inl ⟨by decide, rfl, rfl⟩⟩⟩
  · obtain ⟨m, hm, -, hhalt⟩ := hnever hnested 2 cs
    exact ⟨m, hm, hhalt⟩

end TapeDeck
