import TapeDeck.Screen.Pane
import Mathlib.Algebra.GroupWithZero.Nat
import Mathlib.Data.List.Basic

/-!
# Lines of a text

A text is cut at its line ends by `linesOf`, which leaves one part more than there are line ends
(`length_linesOf`). A text in rows, each closed by a line end (`closedLines`), is cut back into
these rows when none of them has a line end of its own (`linesOf_closedLines`), so a reader of rows
reads from the lines what was written in the rows (`filterMap_linesOf_closedLines`). A row that has
a line end is cut in two, so in general the line ends are more than the rows (`count_closedLines`).
-/

namespace TapeDeck

/-- Rows as one text, each closed by a line end. -/
def closedLines (rows : List (List Char)) : List Char :=
  rows.flatMap (· ++ ['\n'])

@[simp]
theorem closedLines_cons (row : List Char) (rows : List (List Char)) :
    closedLines (row :: rows) = row ++ '\n' :: closedLines rows := by
  simp [closedLines]

theorem linesOf_ne_nil (cs : List Char) : linesOf cs ≠ [] := by
  cases cs with
  | nil => simp [linesOf]
  | cons c cs =>
    unfold linesOf
    split
    · exact List.cons_ne_nil _ _
    · split <;> exact List.cons_ne_nil _ _

/-- Up to its first line end a text is one line. -/
theorem linesOf_append {row : List Char} (h : '\n' ∉ row) (rest : List Char) :
    linesOf (row ++ '\n' :: rest) = row :: linesOf rest := by
  induction row with
  | nil => simp [linesOf]
  | cons c row ih =>
    obtain ⟨hc, hrow⟩ := List.ne_and_not_mem_of_not_mem_cons h
    simp [linesOf, hc.symm, ih hrow]

/-- **Rows without line ends come back as they were**, and nothing is left after the last one. -/
theorem linesOf_closedLines {rows : List (List Char)} (h : ∀ row ∈ rows, '\n' ∉ row) :
    linesOf (closedLines rows) = rows ++ [[]] := by
  induction rows with
  | nil => rfl
  | cons row rows ih =>
    obtain ⟨hrow, hrows⟩ := List.forall_mem_cons.mp h
    rw [closedLines_cons, linesOf_append hrow, ih hrows, List.cons_append]

/-- **What can be read in the rows of a text is read from its lines**, and nothing else, if the head
before the rows cannot be read. -/
theorem filterMap_linesOf_closedLines {α : Type} {read? : List Char → Option α}
    {row : α → List Char} {head : List (List Char)} {xs : List α}
    (hhead : ∀ r ∈ head, '\n' ∉ r ∧ read? r = none) (hempty : read? [] = none)
    (hrow : ∀ x ∈ xs, '\n' ∉ row x ∧ read? (row x) = some x) :
    (linesOf (closedLines (head ++ xs.map row))).filterMap read? = xs := by
  have hline : ∀ r ∈ head ++ xs.map row, '\n' ∉ r := by
    intro r hr
    rcases List.mem_append.mp hr with hr | hr
    · exact (hhead r hr).1
    · obtain ⟨x, hx, rfl⟩ := List.mem_map.mp hr
      exact (hrow x hx).1
  have hnone : head.filterMap read? = [] :=
    List.filterMap_eq_nil_iff.mpr fun r hr => (hhead r hr).2
  have hrest : [([] : List Char)].filterMap read? = [] := by simp [hempty]
  have hrows : (xs.map row).filterMap read? = xs := by
    rw [List.filterMap_map]
    exact (List.filterMap_congr fun x hx => (hrow x hx).2).trans List.filterMap_some
  rw [linesOf_closedLines hline, List.filterMap_append, List.filterMap_append, hnone, hrows, hrest,
    List.nil_append, List.append_nil]

/-- Every line end makes one more line. -/
theorem length_linesOf (cs : List Char) : (linesOf cs).length = cs.count '\n' + 1 := by
  induction cs with
  | nil => rfl
  | cons c cs ih =>
    by_cases hc : c = '\n'
    · simp [linesOf, hc, ih]
    · obtain ⟨line, lines, hlines⟩ := List.exists_cons_of_ne_nil (linesOf_ne_nil cs)
      rw [hlines] at ih
      simpa [linesOf, hc, hlines] using ih

/-- The line ends of a text in rows: one for each row, and those inside the rows. -/
theorem count_closedLines (rows : List (List Char)) :
    (closedLines rows).count '\n' = rows.length + (rows.map (List.count '\n')).sum := by
  induction rows with
  | nil => rfl
  | cons row rows ih =>
    simp only [closedLines_cons, List.count_append, List.count_cons_self, ih, List.length_cons,
      List.map_cons, List.sum_cons]
    omega

end TapeDeck
