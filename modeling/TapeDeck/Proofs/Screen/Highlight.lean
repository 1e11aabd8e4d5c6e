import TapeDeck.Proofs.Screen.Run
import TapeDeck.Screen.Pane

/-!
# The bracket that is shown is the bracket that is jumped to

A listing prints a partner for each bracket, the code pane marks the partner of the current one, and
the machine jumps to what its own scan finds. The first two come from a table that is made when the
program is loaded, the third is looked for again at every jump. `partner_agreement` says that they
are one and the same, on every program: what the scans answer is what the listing says, and where a
bracket jumps is what the listing says and what the pane of every screen that can be reached marks.

What is needed of a screen is that its table is that of the program its machine runs, through all
steps, loads and refused loads (`Screen.OwnTable`).
-/

namespace TapeDeck

namespace Screen

/-- The table of partners is that of the program in the machine. -/
def OwnTable (s : Screen) : Prop :=
  ∀ i, s.partners.partner? i = partnerOf? s.machine.code i

variable {s s' : Screen}

theorem ownTable_start {settings : Settings} {m : Machine} {runId : Int}
    (hm : Machine.load? settings.program.source settings.tapeSize = .ok m) :
    (start settings m runId).OwnTable := by
  obtain ⟨n, -, rfl⟩ := Machine.load?_eq_ok_iff.mp hm
  exact partner?_partners settings.program.source

theorem OwnTable.of_code_eq (h : s.OwnTable) (hp : s'.partners = s.partners)
    (hc : s'.machine.code = s.machine.code) : s'.OwnTable := by
  intro i
  rw [hp, hc]
  exact h i

theorem OwnTable.step (h : s.OwnTable) : s.step.screen.OwnTable := by
  refine h.of_code_eq s.step_partners ?_
  rw [s.step_machine]
  exact s.machine.step_code

theorem OwnTable.change {msg : Message} {asked : Option Int} (h : s.OwnTable)
    (hc : s.Change msg s' asked) : s'.OwnTable := by
  cases hc with
  | ignore => exact h
  | stepKey => exact h.step
  | runKey => exact h.of_code_eq rfl rfl
  | pauseKey => exact h.of_code_eq rfl rfl
  | tick => exact h.step
  | load loaded => exact ownTable_start loaded
  | refuse => exact h.of_code_eq rfl rfl

/-- Every screen that can be reached has the table of its own program. -/
theorem ownTable_run {settings : Settings} {r : Reaction} (opened : open? settings = .ok r)
    (events : List Event) : (r.screen.run events).OwnTable := by
  obtain ⟨speed, m, hm, hscreen, -⟩ := open?_eq_ok opened
  refine run_induction ?_ (fun s e h => ?_) events
  · rw [hscreen]
    exact ownTable_start hm
  · cases e with
    | message msg => exact h.change (s.change_update msg)
    | resize size => exact h.of_code_eq rfl rfl

end Screen

/-- The pane marks the position that the table gives for the next instruction, and no other. -/
theorem markAt_eq_partner_iff {table : PartnerTable} {code : Code} {index i : Nat}
    (h : table.partner? index = partnerOf? code index) :
    markAt table index i = some .partner ↔ partnerOf? code index = some i := by
  unfold markAt
  rw [h]
  split_ifs with hi hp
  · subst hi
    exact ⟨nofun, fun hp => absurd hp (partnerOf?_ne_self code i)⟩
  · exact ⟨fun _ => hp, fun _ => rfl⟩
  · exact ⟨nofun, fun hp' => absurd hp' hp⟩

/-- **Listing, scan, jump and mark agree**, on every program, balanced or not. For an opening
bracket the forward scan and for a closing one the backward scan answers what the listing says of it, and
finds nothing exactly when the listing says that it is unmatched. So the partner in the listing is
the position at which a bracket that has to jump lands, and the position that the code pane of any
screen that can be reached marks for the current bracket. -/
theorem partner_agreement (p : Bytes) :
    (∀ i, p[i]? = some openByte →
      (∀ j, closeOf? p.toArray i = some j ↔ ⟨i, openByte, some j⟩ ∈ listing p) ∧
      (closeOf? p.toArray i = none ↔ ⟨i, openByte, none⟩ ∈ listing p)) ∧
    (∀ i, p[i]? = some closeByte →
      (∀ j, openOf? p.toArray i = some j ↔ ⟨i, closeByte, some j⟩ ∈ listing p) ∧
      (openOf? p.toArray i = none ↔ ⟨i, closeByte, none⟩ ∈ listing p)) ∧
    (∀ m : Machine, m.code = p.toArray → m.isHalted = false → m.Scans → ∀ j,
      (m.step.fault = none ∧ m.step.machine.index = j) ↔ ∃ b, ⟨m.index, b, some j⟩ ∈ listing p) ∧
    (∀ (settings : Settings) (r : Reaction) (events : List Screen.Event),
      Screen.open? settings = .ok r → (r.screen.run events).machine.code = p.toArray → ∀ j,
      markAt (r.screen.run events).partners (r.screen.run events).machine.index j =
          some .partner ↔
        ∃ b, ⟨(r.screen.run events).machine.index, b, some j⟩ ∈ listing p) := by
  refine ⟨fun i hi => ?_, fun i hi => ?_, fun m hm hl hs j => ?_,
    fun settings r events opened hcode j => ?_⟩
  · have hp : partnerOf? p.toArray i = closeOf? p.toArray i := partnerOf?_open (by simpa using hi)
    rw [← hp]
    exact ⟨fun j => (mem_listing_at_iff hi (by decide) (some j)).symm,
      (mem_listing_at_iff hi (by decide) none).symm⟩
  · have hp : partnerOf? p.toArray i = openOf? p.toArray i := partnerOf?_close (by simpa using hi)
    rw [← hp]
    exact ⟨fun j => (mem_listing_at_iff hi (by decide) (some j)).symm,
      (mem_listing_at_iff hi (by decide) none).symm⟩
  · rw [exists_mem_listing_iff, ← hm]
    exact Machine.step_lands_iff hl hs j
  · rw [exists_mem_listing_iff, ← hcode]
    exact markAt_eq_partner_iff (Screen.ownTable_run opened events _)

/-- A matched pair and an unmatched bracket: the scans, the first step and the mark of a new screen,
all read off the listing. -/
theorem partner_agreement_unmatched :
    let p : Bytes := [0x5B, 0x5D, 0x5B]
    let m := Machine.start p (Tape.blank 0)
    closeOf? p.toArray 0 = some 1 ∧ openOf? p.toArray 1 = some 0 ∧ closeOf? p.toArray 2 = none ∧
      m.step.machine.index = 1 ∧
      ∃ r, Screen.open? { program := ⟨1, [], p⟩, tapeSize := 1 } = .ok r ∧
        markAt r.screen.partners r.screen.machine.index 1 = some .partner := by
  intro p m
  obtain ⟨hopen, hclose, hjump, hmark⟩ := partner_agreement p
  refine ⟨((hopen 0 (by decide)).1 1).mpr (by decide), ((hclose 1 (by decide)).1 0).mpr (by decide),
    (hopen 2 (by decide)).2.mpr (by decide),
    ((hjump m rfl rfl (.inl ⟨rfl, rfl⟩) 1).mpr ⟨openByte, by decide⟩).2, _, rfl,
    (hmark { program := ⟨1, [], p⟩, tapeSize := 1 } _ [] rfl rfl 1).mpr ⟨openByte, by decide⟩⟩

end TapeDeck
