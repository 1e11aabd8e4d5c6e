import TapeDeck.Catalog.Reader
import TapeDeck.Proofs.Text.Column
import Mathlib.Data.List.Induction
import Mathlib.Data.List.Nodup

/-!
# Catalogs as finite maps

A catalog keeps its programs in ascending order of their ids, so it is known by what it holds: two
catalogs that hold the same programs, in whatever order, are equal (`Catalog.eq_of_perm`). Adding a
program whose id is free adds it and nothing else (`Catalog.insert_of_free`), and one whose id is
taken is refused (`Catalog.insert_of_taken`). Hence a list of programs with different ids becomes
the catalog that holds it (`Catalog.ofPrograms_of_nodup`), and any other list is refused at the
first program whose id an earlier one has (`Catalog.ofPrograms_eq_error_iff`).

The order in which the programs were given is gone from the catalog, and with it from look-ups.
A refusal names its id in its message too, where `namedId?` reads it behind the wording.

**`catalog_is_finite_map`** says this of the programs of a catalog file.
-/

namespace TapeDeck

/-! ## Messages -/

/-- The id that a message names behind the given wording. -/
def namedId? (wording message : String) : Option Int := do
  Text.readInteger? (← message.toList.dropPrefix? wording.toList)

theorem namedId?_append (wording : String) (id : Int) :
    namedId? wording (wording ++ toString id) = some id := by
  rw [namedId?, String.toList_append, List.dropPrefix?_append_of_beq _ BEq.rfl]
  exact Text.readInteger?_toString id

theorem DuplicateId.namedId?_message (e : DuplicateId) :
    namedId? "catalog: duplicate program id " e.message = some e.id :=
  namedId?_append _ e.id

theorem UnknownProgram.namedId?_message (e : UnknownProgram) :
    namedId? "unknown program: " e.message = some e.id :=
  namedId?_append _ e.id

namespace Program

/-- `TakenFirst ps k`: the first program whose id an earlier one has, has id `k`. The programs
before it have different ids. -/
def TakenFirst (ps : List Program) (k : Int) : Prop :=
  ∃ before p after, ps = before ++ p :: after ∧ (before.map id).Nodup ∧
    p.id ∈ before.map id ∧ p.id = k

theorem exists_takenFirst {ps : List Program} (h : ¬ (ps.map id).Nodup) : ∃ k, TakenFirst ps k := by
  induction ps using List.reverseRecOn with
  | nil => exact absurd List.nodup_nil h
  | append_singleton ps p ih =>
    by_cases hps : (ps.map id).Nodup
    · refine ⟨p.id, ps, p, [], rfl, hps, ?_, rfl⟩
      by_contra hfree
      refine h ?_
      rw [List.map_append, List.map_singleton, ← List.concat_eq_append, List.nodup_concat]
      exact ⟨hfree, hps⟩
    · obtain ⟨k, before, q, after, rfl, hbefore, htaken, hk⟩ := ih hps
      exact ⟨k, before, q, after ++ [p], by simp, hbefore, htaken, hk⟩

theorem TakenFirst.not_nodup {ps : List Program} {k : Int} (h : TakenFirst ps k) :
    ¬ (ps.map id).Nodup := by
  obtain ⟨before, p, after, rfl, -, htaken, -⟩ := h
  intro hnodup
  rw [List.map_append, List.map_cons, List.nodup_append] at hnodup
  exact hnodup.2.2 _ htaken _ List.mem_cons_self rfl

/-! ## Insertion -/

theorem perm_of_insert? {p : Program} {ps qs : List Program} (h : p.insert? ps = some qs) :
    qs.Perm (p :: ps) := by
  induction ps generalizing qs with
  | nil =>
    obtain rfl := Option.some.inj h
    exact .refl _
  | cons q rest ih =>
    unfold insert? at h
    split at h
    · obtain rfl := Option.some.inj h
      exact .refl _
    · split at h
      · cases h
      · obtain ⟨tail, ht, rfl⟩ := Option.map_eq_some_iff.mp h
        exact ((ih ht).cons q).trans (.swap p q rest)

/-- An insertion into programs in ascending order is refused exactly when the id is taken. -/
theorem insert?_eq_none_iff {p : Program} {ps : List Program} (ha : Ascending ps) :
    p.insert? ps = none ↔ p.id ∈ ps.map id := by
  induction ps with
  | nil => simp [insert?]
  | cons q rest ih =>
    obtain ⟨hq, hrest⟩ := List.pairwise_cons.mp ha
    have hlater : p.id < q.id → p.id ∉ rest.map id := by
      intro hlt hmem
      obtain ⟨r, hr, hid⟩ := List.mem_map.mp hmem
      have := hq r hr
      omega
    unfold insert?
    split
    · rename_i hlt
      simp [hlater hlt, Int.ne_of_lt hlt]
    · split
      · rename_i heq
        simp [heq]
      · rename_i hne
        rw [Option.map_eq_none_iff, ih hrest, List.map_cons, List.mem_cons]
        simp [hne]

theorem Ascending.nodup {ps : List Program} (h : Ascending ps) : (ps.map id).Nodup :=
  List.pairwise_map.mpr (h.imp Int.ne_of_lt)

end Program

namespace Catalog

/-- A catalog is known by what it holds. -/
theorem eq_of_perm {c c' : Catalog} (h : c.programs.Perm c'.programs) : c = c' := by
  ext1
  refine h.eq_of_pairwise (fun p q _ _ hpq hqp => ?_) c.ascending c'.ascending
  exact absurd hpq (Int.lt_asymm hqp)

theorem nodup (c : Catalog) : (c.programs.map Program.id).Nodup :=
  c.ascending.nodup

/-- Adding a program with a free id adds it and nothing else. -/
theorem insert_of_free {c : Catalog} {p : Program} (h : p.id ∉ c.programs.map Program.id) :
    ∃ c', c.insert p = .ok c' ∧ c'.programs.Perm (p :: c.programs) := by
  unfold insert
  split
  · rename_i ps hps
    exact ⟨_, rfl, Program.perm_of_insert? hps⟩
  · rename_i hnone
    exact absurd ((Program.insert?_eq_none_iff c.ascending).mp hnone) h

theorem insert_of_taken {c : Catalog} {p : Program} (h : p.id ∈ c.programs.map Program.id) :
    c.insert p = .error ⟨p.id⟩ := by
  unfold insert
  split
  · rename_i ps hps
    rw [(Program.insert?_eq_none_iff c.ascending).mpr h] at hps
    exact absurd hps nofun
  · rfl

theorem ofPrograms_append {ps : List Program} {c : Catalog} (h : ofPrograms ps = .ok c)
    (p : Program) (qs : List Program) :
    ofPrograms (ps ++ p :: qs) = c.insert p >>= qs.foldlM insert := by
  have happend : ofPrograms (ps ++ p :: qs) = ofPrograms ps >>= (p :: qs).foldlM insert :=
    List.foldlM_append
  rw [happend, h, ← List.foldlM_cons]
  rfl

/-- Programs with different ids become the catalog that holds them. -/
theorem ofPrograms_of_nodup {ps : List Program} (h : (ps.map Program.id).Nodup) :
    ∃ c, ofPrograms ps = .ok c ∧ c.programs.Perm ps := by
  induction ps using List.reverseRecOn with
  | nil => exact ⟨empty, rfl, .refl _⟩
  | append_singleton ps p ih =>
    rw [List.map_append, List.map_singleton, ← List.concat_eq_append, List.nodup_concat] at h
    obtain ⟨hfree, hps⟩ := h
    obtain ⟨c, hc, hperm⟩ := ih hps
    have hfree : p.id ∉ c.programs.map Program.id := by
      rwa [(hperm.map Program.id).mem_iff]
    obtain ⟨c', hc', hperm'⟩ := insert_of_free hfree
    refine ⟨c', ?_, ?_⟩
    · rw [ofPrograms_append hc, hc']
      rfl
    · exact hperm'.trans ((hperm.cons p).trans (List.perm_append_singleton p ps).symm)

theorem ofPrograms_of_takenFirst {ps : List Program} {k : Int} (h : Program.TakenFirst ps k) :
    ofPrograms ps = .error ⟨k⟩ := by
  obtain ⟨before, p, after, rfl, hbefore, htaken, rfl⟩ := h
  obtain ⟨c, hc, hperm⟩ := ofPrograms_of_nodup hbefore
  rw [← (hperm.map Program.id).mem_iff] at htaken
  rw [ofPrograms_append hc, insert_of_taken htaken]
  rfl

/-- Any other list is refused at the first program whose id is taken. -/
theorem ofPrograms_eq_error_iff {ps : List Program} {k : Int} :
    ofPrograms ps = .error ⟨k⟩ ↔ Program.TakenFirst ps k := by
  refine ⟨fun h => ?_, ofPrograms_of_takenFirst⟩
  have hrepeats : ¬ (ps.map Program.id).Nodup := by
    intro hnodup
    obtain ⟨c, hc, -⟩ := ofPrograms_of_nodup hnodup
    rw [h] at hc
    exact absurd hc nofun
  obtain ⟨k', hk'⟩ := Program.exists_takenFirst hrepeats
  obtain ⟨rfl⟩ : (⟨k⟩ : DuplicateId) = ⟨k'⟩ :=
    Except.error.inj (h.symm.trans (ofPrograms_of_takenFirst hk'))
  exact hk'

theorem exists_ofPrograms_eq_error_iff {ps : List Program} :
    (∃ e, ofPrograms ps = .error e) ↔ ¬ (ps.map Program.id).Nodup := by
  constructor
  · rintro ⟨⟨k⟩, h⟩
    exact (ofPrograms_eq_error_iff.mp h).not_nodup
  · intro h
    obtain ⟨k, hk⟩ := Program.exists_takenFirst h
    exact ⟨⟨k⟩, ofPrograms_of_takenFirst hk⟩

/-! ## Look-ups -/

theorem find?_eq_some_iff {c : Catalog} {id : Int} {p : Program} :
    c.find? id = some p ↔ p ∈ c.programs ∧ p.id = id := by
  constructor
  · intro h
    exact ⟨List.mem_of_find?_eq_some h, by simpa using List.find?_some h⟩
  · rintro ⟨hp, rfl⟩
    cases hq : c.find? p.id with
    | none => simpa using List.find?_eq_none.mp hq p hp
    | some q =>
      have hid : q.id = p.id := by simpa using List.find?_some hq
      rw [List.inj_on_of_nodup_map c.nodup (List.mem_of_find?_eq_some hq) hp hid]

theorem find?_eq_none_iff {c : Catalog} {id : Int} :
    c.find? id = none ↔ ∀ p ∈ c.programs, p.id ≠ id := by
  simp [find?]

/-- A look-up finds the program with the id, or else the one for ids that are not there. -/
theorem lookup_eq_ok_iff {c : Catalog} {id : Int} {p : Program} :
    c.lookup id = .ok p ↔ p ∈ c.programs ∧
      (p.id = id ∨ p.id = fallbackId ∧ ∀ q ∈ c.programs, q.id ≠ id) := by
  unfold lookup
  cases hfound : c.find? id with
  | some q =>
    obtain ⟨hq, hid⟩ := find?_eq_some_iff.mp hfound
    constructor
    · intro h
      obtain rfl := Except.ok.inj h
      exact ⟨hq, .inl hid⟩
    · rintro ⟨hp, h | ⟨-, hnone⟩⟩
      · rw [find?_eq_some_iff.mpr ⟨hp, h⟩] at hfound
        exact congrArg Except.ok (Option.some.inj hfound).symm
      · exact absurd hid (hnone q hq)
  | none =>
    have hnone := find?_eq_none_iff.mp hfound
    cases hfallback : c.find? fallbackId with
    | some q =>
      obtain ⟨hq, hid⟩ := find?_eq_some_iff.mp hfallback
      constructor
      · intro h
        obtain rfl := Except.ok.inj h
        exact ⟨hq, .inr ⟨hid, hnone⟩⟩
      · rintro ⟨hp, h | ⟨h, -⟩⟩
        · exact absurd h (hnone p hp)
        · rw [find?_eq_some_iff.mpr ⟨hp, h⟩] at hfallback
          exact congrArg Except.ok (Option.some.inj hfallback).symm
    | none =>
      refine ⟨nofun, ?_⟩
      rintro ⟨hp, h | ⟨h, -⟩⟩
      · exact absurd h (hnone p hp)
      · exact absurd h (find?_eq_none_iff.mp hfallback p hp)

/-- A look-up fails when there is neither, and names the id. -/
theorem lookup_eq_error_iff {c : Catalog} {id : Int} {e : UnknownProgram} :
    c.lookup id = .error e ↔
      e = ⟨id⟩ ∧ ∀ p ∈ c.programs, p.id ≠ id ∧ p.id ≠ fallbackId := by
  rw [forall₂_and, ← find?_eq_none_iff, ← find?_eq_none_iff]
  unfold lookup
  cases c.find? id with
  | some q => simp
  | none =>
    cases c.find? fallbackId with
    | some q => simp
    | none => simp [eq_comm]

end Catalog

/-- Once its programs are read, nothing but a taken id is wrong with a catalog file. -/
theorem CatalogFile.read_eq_mapError {text : Bytes} {ps : List Program}
    (h : readProgramList text = .ok ps) :
    read text = (Catalog.ofPrograms ps).mapError .duplicate := by
  unfold read
  simp only [h]
  split
  · rename_i hc
    rw [hc]
    rfl
  · rename_i he
    rw [he]
    rfl

/-- **A catalog is a finite map.** Whatever programs a catalog file has, in any order. They are
refused exactly when two of them have one id, and the refusal names the first id that was taken
already, in its message too. Otherwise the catalog holds these programs and no others, in strictly ascending order of
their ids. A look-up gives the program with the id, else the program with id 999, else it fails and
names the id, again in its message too. The programs in any other order give the same catalog. -/
theorem catalog_is_finite_map (ps : List Program) :
    (∀ k, Catalog.ofPrograms ps = .error ⟨k⟩ ↔ Program.TakenFirst ps k) ∧
    ((∃ e, Catalog.ofPrograms ps = .error e) ↔ ¬ (ps.map Program.id).Nodup) ∧
    (∀ e, Catalog.ofPrograms ps = .error e → ∃ k, Program.TakenFirst ps k ∧
      namedId? "catalog: duplicate program id " e.message = some k) ∧
    ((ps.map Program.id).Nodup → ∃ c, Catalog.ofPrograms ps = .ok c ∧
      c.programs.Perm ps ∧ c.programs.Pairwise (fun p q => p.id < q.id) ∧
      (∀ id p, c.lookup id = .ok p ↔
        p ∈ ps ∧ (p.id = id ∨ p.id = 999 ∧ ∀ q ∈ ps, q.id ≠ id)) ∧
      (∀ id e, c.lookup id = .error e ↔ e = ⟨id⟩ ∧ ∀ p ∈ ps, p.id ≠ id ∧ p.id ≠ 999) ∧
      (∀ id e, c.lookup id = .error e → namedId? "unknown program: " e.message = some id) ∧
      ∀ ps', ps'.Perm ps → Catalog.ofPrograms ps' = .ok c) ∧
    ∀ text, CatalogFile.readProgramList text = .ok ps →
      CatalogFile.read text = (Catalog.ofPrograms ps).mapError .duplicate := by
  refine ⟨fun k => Catalog.ofPrograms_eq_error_iff, Catalog.exists_ofPrograms_eq_error_iff,
    fun e he => ⟨e.id, Catalog.ofPrograms_eq_error_iff.mp he, e.namedId?_message⟩,
    fun h => ?_, fun text htext => ?_⟩
  · obtain ⟨c, hc, hperm⟩ := Catalog.ofPrograms_of_nodup h
    refine ⟨c, hc, hperm, c.ascending, fun id p => ?_, fun id e => ?_, fun id e he => ?_,
      fun ps' hps' => ?_⟩
    · rw [Catalog.lookup_eq_ok_iff]
      simp only [hperm.mem_iff, Catalog.fallbackId]
    · rw [Catalog.lookup_eq_error_iff]
      simp only [hperm.mem_iff, Catalog.fallbackId]
    · obtain ⟨rfl, -⟩ := Catalog.lookup_eq_error_iff.mp he
      exact UnknownProgram.namedId?_message _
    · have hnodup : (ps'.map Program.id).Nodup := (hps'.map Program.id).nodup_iff.mpr h
      obtain ⟨c', hc', hperm'⟩ := Catalog.ofPrograms_of_nodup hnodup
      rw [hc', Catalog.eq_of_perm (hperm'.trans (hps'.trans hperm.symm))]
  · exact CatalogFile.read_eq_mapError htext

end TapeDeck
