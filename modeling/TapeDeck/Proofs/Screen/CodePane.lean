import TapeDeck.Proofs.Machine.Widen
import TapeDeck.Proofs.Screen.Highlight
import TapeDeck.Proofs.Screen.Refusal

/-!
# The code pane shows the next instruction and its partner

The code pane is a window of 120 bytes that begins half of them before the position of the machine.
The spans between the ellipses are the bytes of the window, one span for a byte (`codeItems`). A
position of the machine that is not beyond the end of the program is always in view: as a byte of
the window (`codeStart_le`, `lt_codeStop`), or as the sign at the end, and then the window reaches
the end.

Of the spans exactly one is marked as current, since the positions of the window are all different
(`filter_current_codeItems`), and the sign is shown only when no byte can be it. The mark of the
partner comes from the table that was made when the program was loaded. That table is the listing
of the program in the machine (`Screen.OwnTable`), and where a bracket has a partner the machine is
not halted (`Lockstep.live_of_partner`), so the mark is where the machine lands if it has to jump.

**`code_pane_shows_current`** says this for every screen that can be reached.
-/

namespace TapeDeck

/-! ## The window -/

/-- The end of the bytes that are shown around position `index`. -/
def codeStop (size index : Nat) : Nat :=
  min (codeStart index + shownBytes) size

section Window

variable {size index : Nat}

theorem codeStart_le (index : Nat) : codeStart index ≤ index :=
  Nat.sub_le _ _

theorem codeStop_le (size index : Nat) : codeStop size index ≤ size :=
  Nat.min_le_right _ _

theorem codeStop_sub_codeStart_le (size index : Nat) :
    codeStop size index - codeStart index ≤ shownBytes := by
  unfold codeStop
  omega

theorem codeStart_le_codeStop (h : index ≤ size) : codeStart index ≤ codeStop size index := by
  have hstart := codeStart_le index
  unfold codeStop
  omega

/-- The byte at the position is in the window. -/
theorem lt_codeStop (h : index < size) : index < codeStop size index := by
  unfold codeStop codeStart shownBytes
  omega

end Window

/-! ## The spans of the window -/

/-- The span of a byte at its position. -/
def codeItem (table : PartnerTable) (index : Nat) (x : UInt8 × Nat) : Span where
  mark := markAt table index x.2
  text := [byteChar x.1]

/-- The spans of the bytes that are shown. -/
def codeItems (code : Code) (table : PartnerTable) (index : Nat) : List Span :=
  ((code.extract (codeStart index) (codeStop code.size index)).toList.zipIdx (codeStart index)).map
    (codeItem table index)

section Items

variable {code : Code} {table : PartnerTable} {index : Nat}

theorem codeSpans_eq (code : Code) (table : PartnerTable) (index : Nat) :
    codeSpans code table index =
      (if 0 < codeStart index then [ellipsis] else []) ++ codeItems code table index ++
        (if index ≥ code.size then [endSign] else []) ++
        (if codeStop code.size index < code.size then [ellipsis] else []) := rfl

/-- The sign at the end is shown to a machine that stands there. -/
theorem codeSpans_of_size {size : Nat} (hsize : code.size = size) (h : index ≤ size) :
    codeSpans code table index =
      (if 0 < codeStart index then [ellipsis] else []) ++ codeItems code table index ++
        (if index = size then [endSign] else []) ++
        (if codeStop size index < size then [ellipsis] else []) := by
  subst hsize
  have hend : (index ≥ code.size) = (index = code.size) :=
    propext ⟨fun hge => Nat.le_antisymm h hge, Nat.le_of_eq ∘ Eq.symm⟩
  simp only [codeSpans_eq, hend]

theorem length_codeItems (code : Code) (table : PartnerTable) (index : Nat) :
    (codeItems code table index).length = codeStop code.size index - codeStart index := by
  have hstop := codeStop_le code.size index
  simp only [codeItems, List.length_map, List.length_zipIdx, Array.length_toList,
    Array.size_extract]
  omega

/-- The spans are the bytes of the window, in order. -/
theorem text_codeItems (code : Code) (table : PartnerTable) (index : Nat) :
    (codeItems code table index).map Span.text =
      ((code.toList.drop (codeStart index)).take (codeStop code.size index - codeStart index)).map
        fun b => [byteChar b] := by
  have hbyte : Span.text ∘ codeItem table index = (fun b => [byteChar b]) ∘ Prod.fst := rfl
  rw [codeItems, List.map_map, hbyte, ← List.map_map, List.zipIdx_map_fst, Array.toList_extract]

/-- Each has the mark of its position. -/
theorem mark_getElem?_codeItems {k : Nat} {item : Span}
    (h : (codeItems code table index)[k]? = some item) :
    item.mark = markAt table index (codeStart index + k) := by
  rw [codeItems, List.getElem?_map, List.getElem?_zipIdx, Option.map_map] at h
  obtain ⟨b, -, rfl⟩ := Option.map_eq_some_iff.mp h
  rfl

/-- Of numbered items just one has a given number. -/
theorem filter_zipIdx {α : Type} (xs : List α) {start i : Nat} (h : start ≤ i) :
    (xs.zipIdx start).filter (fun x => x.2 = i) = (xs[i - start]?.map (·, i)).toList := by
  induction xs generalizing start with
  | nil => simp
  | cons x xs ih =>
    rcases Nat.eq_or_lt_of_le h with rfl | hlt
    · have hnone : (xs.zipIdx (start + 1)).filter (fun x => x.2 = start) = [] := by
        simp only [List.filter_eq_nil_iff, decide_eq_true_eq]
        intro y hy
        have := (List.mem_zipIdx hy).1
        omega
      simp [hnone]
    · have hsucc : i - start = i - (start + 1) + 1 := by omega
      have hne : start ≠ i := by omega
      simp [hne, ih hlt, hsucc]

theorem markAt_eq_current_iff {i : Nat} : markAt table index i = some .current ↔ i = index := by
  unfold markAt
  split_ifs with h hp <;> simp [h]

/-- The byte at the position is in the window, if there is one. -/
theorem getElem?_extract_code (h : index ≤ code.size) :
    (code.extract (codeStart index) (codeStop code.size index)).toList[index - codeStart index]? =
      code[index]? := by
  have hstart := codeStart_le index
  rcases Nat.lt_or_eq_of_le h with hlt | rfl
  · have hstop := lt_codeStop hlt
    have hsize := codeStop_le code.size index
    rw [Array.getElem?_toList, Array.getElem?_extract, if_pos (by omega)]
    congr 1
    omega
  · have hsize := codeStop_le code.size code.size
    rw [Array.getElem?_toList, Array.getElem?_extract, if_neg (by omega),
      Array.getElem?_eq_none (Nat.le_refl _)]

/-- **One span of the window is current**, that of the byte at the position, if there is one. -/
theorem filter_current_codeItems (h : index ≤ code.size) :
    (codeItems code table index).filter (fun x => x.mark = some .current) =
      (code[index]?.map fun b => { mark := some .current, text := [byteChar b] }).toList := by
  have hmark : (fun x : Span => decide (x.mark = some .current)) ∘ codeItem table index =
      fun x => decide (x.2 = index) := by
    funext x
    simp only [Function.comp, codeItem, markAt_eq_current_iff]
  have hcurrent (b : UInt8) : codeItem table index (b, index) =
      { mark := some .current, text := [byteChar b] } := by
    simp only [codeItem, markAt_eq_current_iff.mpr]
  rw [codeItems, List.filter_map, hmark, filter_zipIdx _ (codeStart_le index),
    getElem?_extract_code h]
  cases code[index]? <;> simp [hcurrent]

/-- What is shown besides the bytes, at the end of the program, completes them: one span of the
pane is current. -/
theorem filter_current_codeSpans (h : index ≤ code.size) :
    (codeSpans code table index).filter (fun x => x.mark = some .current) =
      [{ mark := some .current, text := [(code[index]?.map byteChar).getD '∎'] }] := by
  have hellipsis (c : Prop) [Decidable c] :
      (if c then [ellipsis] else []).filter (fun x => x.mark = some .current) = [] := by
    split <;> rfl
  rw [codeSpans_eq]
  simp only [List.filter_append, hellipsis, filter_current_codeItems h, List.nil_append,
    List.append_nil]
  rcases Nat.lt_or_eq_of_le h with hlt | rfl
  · rw [Array.getElem?_eq_getElem hlt, if_neg (Nat.not_le.mpr hlt)]
    rfl
  · rw [Array.getElem?_eq_none (Nat.le_refl _), if_pos (Nat.le_refl _)]
    rfl

/-- Only bytes are marked as partners. -/
theorem mem_codeSpans_of_partner {item : Span} (h : item.mark = some .partner) :
    item ∈ codeSpans code table index ↔ item ∈ codeItems code table index := by
  have hellipsis : item ≠ ellipsis := by
    rintro rfl
    cases h
  have hend : item ≠ endSign := by
    rintro rfl
    cases h
  rw [codeSpans_eq]
  simp [hellipsis, hend]

/-- **The partner is marked where it is in view**, given that the table says what the scan finds. -/
theorem exists_partner_codeSpans_iff (h : table.partner? index = partnerOf? code index) :
    (∃ item ∈ codeSpans code table index, item.mark = some .partner) ↔
      ∃ j, partnerOf? code index = some j ∧ codeStart index ≤ j ∧
        j < codeStop code.size index := by
  have hlength := length_codeItems code table index
  constructor
  · rintro ⟨item, hmem, hmark⟩
    rw [mem_codeSpans_of_partner hmark] at hmem
    obtain ⟨k, hk⟩ := List.mem_iff_getElem?.mp hmem
    have hlt : k < (codeItems code table index).length := (List.getElem?_eq_some_iff.mp hk).1
    rw [mark_getElem?_codeItems hk] at hmark
    exact ⟨codeStart index + k, (markAt_eq_partner_iff h).mp hmark, by omega, by omega⟩
  · rintro ⟨j, hj, hstart, hstop⟩
    have hk : j - codeStart index < (codeItems code table index).length := by omega
    have hitem := List.getElem?_eq_getElem hk
    have hmark := mark_getElem?_codeItems hitem
    rw [Nat.add_sub_cancel' hstart, (markAt_eq_partner_iff h).mpr hj] at hmark
    exact ⟨_, (mem_codeSpans_of_partner hmark).mpr (List.getElem_mem hk), hmark⟩

end Items

/-! ## The machine behind the pane -/

namespace Lockstep

variable {m : Machine} {s : Screen} {g : Tally}

/-- What the machine of the screen follows keeps the invariant of machines. -/
theorem exists_invariant (h : Lockstep m s g) :
    ∃ n, (m.stepN g.steps).Invariant g.source n := by
  obtain ⟨n, -, rfl⟩ := Machine.load?_eq_ok_iff.mp h.loaded
  exact ⟨n, (Machine.Invariant.start g.source n).stepN g.steps⟩

theorem index_le (h : Lockstep m s g) : s.machine.index ≤ s.machine.code.size := by
  obtain ⟨n, hinv⟩ := h.exists_invariant
  rw [h.machine.index_eq, h.machine.code_eq]
  exact hinv.index_le

/-- A machine that stands on a bracket with a partner goes on: one that has finished stands on
nothing, and one that is unbalanced on a bracket without a partner. -/
theorem live_of_partner (h : Lockstep m s g) {j : Nat}
    (hj : partnerOf? s.machine.code s.machine.index = some j) : s.machine.isHalted = false := by
  obtain ⟨n, hinv⟩ := h.exists_invariant
  rw [h.machine.code_eq, h.machine.index_eq] at hj
  rw [h.machine.isHalted_eq]
  by_contra hhalted
  obtain ⟨reason, hreason⟩ := Status.isHalted_iff.mp (Bool.of_not_eq_false hhalted)
  cases reason with
  | finished =>
    have hend := hinv.finished hreason
    rcases bracket_of_partnerOf? hj with hb | hb
    all_goals
      have := (Array.getElem?_eq_some_iff.mp hb).1
      omega
  | unbalanced =>
    rw [(hinv.unbalanced hreason).2] at hj
    cases hj

end Lockstep

/-- **The code pane always shows the current instruction and its true partner.** On every screen
that can be reached, let `p` be the program of the last load that succeeded and `i` the position of
the machine. The pane is a stretch of at most 120 bytes of `p`, each as the character of its value
and in order, with an ellipsis in front unless it begins with the program, and one behind unless it
ends with it. One span of the pane is current, the byte at `i` or the sign for the end when `i` is
there. Another is marked as partner exactly when the listing of `p` has one for `i` that is in view,
and then it is that one; and a bracket at `i` that has to jump lands on it. -/
theorem code_pane_shows_current {settings : Settings} {r : Reaction}
    (opened : Screen.open? settings = .ok r) (events : List Screen.Event) :
    let s := r.screen.run events
    let p := ((Tally.opened settings).run r.screen events).source
    let i := s.machine.index
    ∃ (start stop : Nat) (items : List Span),
      s.codePane = (if 0 < start then [{ text := ['…'] }] else []) ++ items ++
        (if i = p.length then [{ mark := some .current, text := ['∎'] }] else []) ++
        (if stop < p.length then [{ text := ['…'] }] else []) ∧
      (start ≤ stop ∧ stop ≤ p.length ∧ stop - start ≤ 120) ∧
      items.map Span.text = ((p.drop start).take (stop - start)).map (fun b => [byteChar b]) ∧
      (i ≤ p.length ∧ s.codePane.filter (fun x => x.mark = some .current) =
        [{ mark := some .current, text := [(p[i]?.map byteChar).getD '∎'] }]) ∧
      (∀ k item, items[k]? = some item →
        (item.mark = some .current ↔ start + k = i) ∧
        (item.mark = some .partner ↔ ∃ b, ⟨i, b, some (start + k)⟩ ∈ listing p)) ∧
      ((∃ item ∈ s.codePane, item.mark = some .partner) ↔
        ∃ b j, ⟨i, b, some j⟩ ∈ listing p ∧ start ≤ j ∧ j < stop) ∧
      ∀ b j, ⟨i, b, some j⟩ ∈ listing p →
        (p[i]? = some b ∧ (b = openByte ∨ b = closeByte)) ∧
        (s.machine.Scans → s.machine.step.fault = none ∧ s.machine.step.machine.index = j) := by
  intro s p i
  obtain ⟨m, hlockstep⟩ := Lockstep.of_open? opened events
  have hcode : s.machine.code = p.toArray := hlockstep.code_eq
  have hsize : s.machine.code.size = p.length := by rw [hcode, List.size_toArray]
  have htable : s.partners.partner? i = partnerOf? s.machine.code i :=
    Screen.ownTable_run opened events i
  have hindex : i ≤ s.machine.code.size := hlockstep.index_le
  have hlisting (j : Nat) : (∃ b, ⟨i, b, some j⟩ ∈ listing p) ↔
      partnerOf? s.machine.code i = some j := by
    rw [exists_mem_listing_iff, hcode]
  refine ⟨codeStart i, codeStop p.length i, codeItems s.machine.code s.partners i, ?_,
    ⟨codeStart_le_codeStop (hsize ▸ hindex), codeStop_le _ _, codeStop_sub_codeStart_le _ _⟩,
    ?_, ⟨hsize ▸ hindex, ?_⟩, fun k item hitem => ?_, ?_, fun b j hmem => ?_⟩
  · exact codeSpans_of_size hsize (hsize ▸ hindex)
  · rw [text_codeItems, hcode, List.size_toArray]
  · rw [Screen.codePane, filter_current_codeSpans hindex, hcode, List.getElem?_toArray]
  · rw [mark_getElem?_codeItems hitem, hlisting]
    exact ⟨markAt_eq_current_iff, markAt_eq_partner_iff htable⟩
  · rw [Screen.codePane, exists_partner_codeSpans_iff htable, hsize, exists_comm]
    refine exists_congr fun j => ?_
    rw [← hlisting, exists_and_right]
  · have hj : partnerOf? s.machine.code i = some j := (hlisting j).mp ⟨b, hmem⟩
    have hb : p[i]? = some b := ((mem_listing_iff p _).mp hmem).1
    refine ⟨⟨hb, ?_⟩, fun hscans => ?_⟩
    · rcases bracket_of_partnerOf? hj with h | h
      · rw [hcode, List.getElem?_toArray, hb] at h
        exact .inl (Option.some.inj h)
      · rw [hcode, List.getElem?_toArray, hb] at h
        exact .inr (Option.some.inj h)
    · exact (Machine.step_lands_iff (hlockstep.live_of_partner hj) hscans j).mpr hj

/-- After the first step of `+[-]` the opening bracket is current and the closing one is marked. -/
theorem code_pane_shows_current_loop :
    let settings : Settings := { program := ⟨1, [0x61], [0x2B, 0x5B, 0x2D, 0x5D]⟩, tapeSize := 1 }
    let events : List Screen.Event := [.message (.key { text := "s" })]
    ∃ r, Screen.open? settings = .ok r ∧
      (r.screen.run events).codePane.filter (fun x => x.mark = some .current) =
        [{ mark := some .current, text := ['['] }] ∧
      { mark := some .partner, text := [']'] } ∈ (r.screen.run events).codePane := by
  intro settings events
  refine ⟨_, rfl, ?_⟩
  obtain ⟨start, stop, items, -, -, -, ⟨-, hcurrent⟩, -⟩ :=
    @code_pane_shows_current settings _ rfl events
  exact ⟨hcurrent.trans (by decide +kernel), by decide +kernel⟩

end TapeDeck
