import TapeDeck.Text.Bytes

/-!
# Catalogs of programs

A catalog holds programs under different ids, in the order of their ids. Looking up an id that is
not there gives the program with id 999, if there is one.

Insertion keeps the order (`Program.ascending_insert?`), so a catalog is ordered by construction.
-/

namespace TapeDeck

/-- A program and where it is found. -/
structure Program where
  id : Int := 0
  name : Bytes := []
  source : Bytes := []
  deriving DecidableEq, Repr

/-- Two programs with one id. -/
structure DuplicateId where
  id : Int
  deriving DecidableEq, Repr

/-- The wording of a duplicate id. -/
def DuplicateId.message (e : DuplicateId) : String :=
  "catalog: duplicate program id " ++ toString e.id

/-- An id without a program, where there is no program for that case either. -/
structure UnknownProgram where
  id : Int
  deriving DecidableEq, Repr

/-- The wording of an unknown program. -/
def UnknownProgram.message (e : UnknownProgram) : String :=
  "unknown program: " ++ toString e.id

namespace Program

/-- Put a program where its id belongs; none when the id is taken. -/
def insert? (p : Program) : List Program → Option (List Program)
  | [] => some [p]
  | q :: rest =>
    if p.id < q.id then some (p :: q :: rest)
    else if p.id = q.id then none
    else (insert? p rest).map (q :: ·)

/-- Programs in ascending order of different ids. -/
def Ascending (ps : List Program) : Prop :=
  ps.Pairwise fun p q => p.id < q.id

theorem mem_of_insert? {p r : Program} {ps qs : List Program} (h : p.insert? ps = some qs)
    (hr : r ∈ qs) : r = p ∨ r ∈ ps := by
  induction ps generalizing qs with
  | nil =>
    simp only [insert?, Option.some.injEq] at h
    subst h
    simpa using hr
  | cons q rest ih =>
    unfold insert? at h
    split at h
    · simp only [Option.some.injEq] at h
      subst h
      simpa using hr
    · split at h
      · simp at h
      · obtain ⟨tail, ht, rfl⟩ := Option.map_eq_some_iff.1 h
        rcases List.mem_cons.1 hr with rfl | hr
        · exact .inr List.mem_cons_self
        · exact (ih ht hr).imp_right (List.mem_cons_of_mem q)

theorem ascending_insert? {p : Program} {ps qs : List Program} (h : p.insert? ps = some qs)
    (ha : Ascending ps) : Ascending qs := by
  induction ps generalizing qs with
  | nil =>
    simp only [insert?, Option.some.injEq] at h
    subst h
    simp [Ascending]
  | cons q rest ih =>
    have ⟨hq, hrest⟩ := List.pairwise_cons.1 ha
    unfold insert? at h
    split at h
    · rename_i hlt
      simp only [Option.some.injEq] at h
      subst h
      refine List.pairwise_cons.2 ⟨fun r hr => ?_, ha⟩
      rcases List.mem_cons.1 hr with rfl | hr
      · exact hlt
      · exact Int.lt_trans hlt (hq r hr)
    · split at h
      · simp at h
      · obtain ⟨tail, ht, rfl⟩ := Option.map_eq_some_iff.1 h
        refine List.pairwise_cons.2 ⟨fun r hr => ?_, ih ht hrest⟩
        rcases mem_of_insert? ht hr with rfl | hr
        · omega
        · exact hq r hr

end Program

/-- Programs in ascending order of different ids. -/
@[ext]
structure Catalog where
  programs : List Program
  ascending : Program.Ascending programs

namespace Catalog

/-- The catalog without programs. -/
def empty : Catalog := ⟨[], List.Pairwise.nil⟩

/-- Add a program whose id is not taken yet. -/
def insert (c : Catalog) (p : Program) : Except DuplicateId Catalog :=
  match h : p.insert? c.programs with
  | some ps => .ok ⟨ps, Program.ascending_insert? h c.ascending⟩
  | none => .error ⟨p.id⟩

/-- The catalog of the given programs. The first of them whose id is taken is refused. -/
def ofPrograms (ps : List Program) : Except DuplicateId Catalog :=
  ps.foldlM insert empty

/-- The program with an id. -/
def find? (c : Catalog) (id : Int) : Option Program :=
  c.programs.find? fun p => p.id = id

/-- The id of the program that is served for ids that are not there. -/
def fallbackId : Int := 999

/-- The program with an id, or the one that is served for ids that are not there. -/
def lookup (c : Catalog) (id : Int) : Except UnknownProgram Program :=
  match c.find? id with
  | some p => .ok p
  | none =>
    match c.find? fallbackId with
    | some p => .ok p
    | none => .error ⟨id⟩

end Catalog

end TapeDeck
