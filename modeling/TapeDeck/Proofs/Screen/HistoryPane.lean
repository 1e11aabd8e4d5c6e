import TapeDeck.Proofs.Screen.Lockstep
import TapeDeck.Proofs.Text.CharBytes
import TapeDeck.Proofs.Text.Column
import TapeDeck.Proofs.Text.Lines
import Mathlib.Data.List.Basic

/-!
# The history pane shows the last steps

The pane has a row for each of the last steps, at most 8 of them, and the row says which step it
is: a reader that knows the columns of a row gets the whole step back (`Executed.read?_historyRow`).

A row is not always a line. The command stands in its row as a character, and a step may execute
any byte of the program, since those that are no commands are steps too. A step that executes a line
end is shown by a row of two lines (`count_historyRow`), and `history_pane_breaks_line` is a pane of
one step and two lines. So the pane has as many lines as steps only where none of the steps that are
shown executes a line end.

**`history_pane_shows_last_steps`** says this for every screen that can be reached: the rows are the
last steps that the machine has executed, and there is a line for each, and one more for each line
end among the commands.
-/

namespace TapeDeck

/-! ## A row of the pane -/

namespace Executed

/-- The output of a step at the end of its row. -/
def outputField : Option UInt8 → List Char
  | none => []
  | some b => [' ', 'o', 'u', 't', '='] ++ Nat.toDigits 10 b.toNat

/-- Read the output at the end of a row. -/
def readOutput? : List Char → Option (Option UInt8)
  | [] => some none
  | field => do
    let (n, rest) ← Text.readNumber? (← field.dropPrefix? [' ', 'o', 'u', 't', '='])
    guard (rest = [])
    some (some (← byteOf? n))

/-- Take a row apart: a place for the star, then the position of the command, its character, the
pointer, and the output if there is any. -/
def read? (row : List Char) : Option (Bool × Executed) := do
  let starred ←
    match row.take 3 with
    | ['*', ' ', ' '] => some true
    | [' ', ' ', ' '] => some false
    | _ => none
  let (index, rest) ← Text.readColumn? (row.drop 3)
  match (← rest.dropPrefix? [' ', ' ']) with
  | [] => none
  | c :: rest =>
    let command ← byteOf? c.toNat
    let (pointer, rest) ← Text.readNumber? (← rest.dropPrefix? [' ', ' ', 'p', '='])
    some (starred, ⟨index, command, pointer, ← readOutput? rest⟩)

end Executed

/-- The row of a step, without its line end. -/
def historyRow (last : Bool) (e : Executed) : List Char :=
  (if last then ['*', ' ', ' '] else [' ', ' ', ' ']) ++
    ((Text.column 5 e.index).toList ++ ([' ', ' ', byteChar e.command] ++ ([' ', ' ', 'p', '='] ++
      (Nat.toDigits 10 e.pointer ++ Executed.outputField e.output))))

/-- The text of a row, in the columns in which it is read. -/
theorem toList_historyRow (last : Bool) (e : Executed) :
    (if last then "*  " else "   ").toList ++ e.text.toList = historyRow last e := by
  unfold Executed.text historyRow Executed.outputField
  cases last <;> cases e.output <;> simp

theorem Executed.readOutput?_outputField (output : Option UInt8) :
    readOutput? (outputField output) = some output := by
  cases output with
  | none => rfl
  | some b =>
    simp [readOutput?, outputField, List.dropPrefix?, Text.readNumber?_toDigits_nil, byteOf?_toNat]

/-- **A row says which step it shows**, and whether it is the last one. -/
theorem Executed.read?_historyRow (last : Bool) (e : Executed) :
    read? (historyRow last e) = some (last, e) := by
  have hindex (rest : List Char) : Text.NoDigitNext (' ' :: rest) :=
    Text.noDigitNext_cons rfl rest
  have hpointer : Text.NoDigitNext (outputField e.output) := by
    cases e.output with
    | none => exact Text.noDigitNext_nil
    | some b => exact hindex _
  cases last <;>
    simp [read?, historyRow, Text.readColumn?_column _ _ (hindex _), List.dropPrefix?,
      Utf8.toNat_byteChar, byteOf?_toNat, Text.readNumber?_toDigits _ hpointer,
      readOutput?_outputField]

theorem byteChar_eq_newline_iff {b : UInt8} : byteChar b = '\n' ↔ b = 0x0A := by
  constructor
  · intro h
    have hcode := congrArg Char.toNat h
    rw [Utf8.toNat_byteChar] at hcode
    exact UInt8.toNat_inj.mp hcode
  · rintro rfl
    decide

/-- **A row has a line end exactly if its step executes one.** -/
theorem count_historyRow (last : Bool) (e : Executed) :
    (historyRow last e).count '\n' = if e.command = 0x0A then 1 else 0 := by
  have hindex := Text.newline_notMem_column 5 e.index
  have hpointer := Text.newline_notMem_toDigits e.pointer
  have houtput : '\n' ∉ Executed.outputField e.output := by
    cases e.output with
    | none => exact List.not_mem_nil
    | some b => simp [Executed.outputField, Text.newline_notMem_toDigits]
  have hstar : (if last then ['*', ' ', ' '] else [' ', ' ', ' ']).count '\n' = 0 := by
    cases last <;> rfl
  unfold historyRow
  simp only [List.count_append, hstar, List.count_eq_zero_of_not_mem hindex,
    List.count_eq_zero_of_not_mem hpointer, List.count_eq_zero_of_not_mem houtput]
  simp [List.count_cons, byteChar_eq_newline_iff]

/-! ## The rows of the pane -/

/-- The rows of steps, with the last one starred. -/
def historyRows (es : List Executed) : List (List Char) :=
  es.mapIdx fun i e => historyRow (i + 1 = es.length) e

theorem historyRows_cons (e : Executed) (es : List Executed) :
    historyRows (e :: es) = historyRow es.isEmpty e :: historyRows es := by
  cases es <;> simp [historyRows]

@[simp]
theorem length_historyRows (es : List Executed) : (historyRows es).length = es.length :=
  List.length_mapIdx

theorem toList_historyText (es : List Executed) :
    (historyText es).toList = closedLines (historyRows es) := by
  induction es with
  | nil => rfl
  | cons e es ih =>
    rw [historyRows_cons, closedLines_cons, ← ih, ← toList_historyRow]
    cases es <;> simp [historyText]

theorem getElem?_historyRows {es : List Executed} {i : Nat} {row : List Char}
    (h : (historyRows es)[i]? = some row) :
    ∃ e, es[i]? = some e ∧ row = historyRow (i + 1 = es.length) e := by
  rw [historyRows, List.getElem?_mapIdx] at h
  obtain ⟨e, he, rfl⟩ := Option.map_eq_some_iff.mp h
  exact ⟨e, he, rfl⟩

/-- The lines of the rows: one for each step, and one more for each line end that is executed. -/
theorem count_historyRows (es : List Executed) :
    (closedLines (historyRows es)).count '\n' =
      es.length + es.countP (fun e => e.command = 0x0A) := by
  rw [count_closedLines, length_historyRows]
  congr 1
  induction es with
  | nil => rfl
  | cons e es ih =>
    rw [historyRows_cons, List.map_cons, List.sum_cons, ih, count_historyRow, List.countP_cons,
      Nat.add_comm]
    simp only [decide_eq_true_eq]

/-- Each step has a line of its own exactly where no step executes a line end. -/
theorem linesOf_historyRows_iff (es : List Executed) :
    linesOf (closedLines (historyRows es)) = historyRows es ++ [[]] ↔
      ∀ e ∈ es, e.command ≠ 0x0A := by
  constructor
  · intro h
    have hlength := congrArg List.length h
    rw [length_linesOf, count_historyRows, List.length_append, length_historyRows,
      List.length_singleton] at hlength
    have hnone : es.countP (fun e => e.command = 0x0A) = 0 := by omega
    simpa using hnone
  · intro h
    refine linesOf_closedLines fun row hrow => ?_
    obtain ⟨i, hi⟩ := List.mem_iff_getElem?.mp hrow
    obtain ⟨e, he, rfl⟩ := getElem?_historyRows hi
    rw [← List.count_eq_zero, count_historyRow, if_neg (h e (List.mem_of_getElem? he))]

theorem Screen.toList_historyPane (s : Screen) :
    s.historyPane.toList =
      closedLines (historyRows (s.history.toList.drop (s.history.toList.length - 8))) := by
  have hlast : s.history.toList.drop (s.history.size - 8) =
      (s.history.toList.drop (s.history.size - 8)).take
        (s.history.size - (s.history.size - 8)) := by
    rw [List.take_of_length_le]
    simp
  rw [historyPane, toList_historyText, Array.toList_extract, historyDepth, Array.length_toList,
    List.extract_eq_take_drop, ← hlast]

/-- **The history pane shows the last steps.** After any events on a screen that was opened, the
pane has a row for each of the last steps that the machine has executed since it was loaded, at most
8, and the row says which step it is, the last one with a star. A row has a line end of its own
exactly if its step executes one, so the pane is a line for each of these steps exactly if none of
them does. -/
theorem history_pane_shows_last_steps {settings : Settings} {r : Reaction}
    (opened : Screen.open? settings = .ok r) (events : List Screen.Event) :
    let s := r.screen.run events
    let g := (Tally.opened settings).run r.screen events
    ∃ m, Machine.load? g.source g.tapeSize = .ok m ∧
      let steps := (m.reports g.steps).filterMap StepReport.executed?
      let shown := steps.drop (steps.length - 8)
      steps.length = s.history.size ∧
      ∃ rows : List (List Char),
        s.historyPane.toList = closedLines rows ∧ rows.length = min s.history.size 8 ∧
        (∀ i row, rows[i]? = some row → ∃ e, shown[i]? = some e ∧
          Executed.read? row = some (decide (i + 1 = rows.length), e) ∧
          row.count '\n' = if e.command = 0x0A then 1 else 0) ∧
        s.historyPane.toList.count '\n' =
          rows.length + shown.countP (fun e => e.command = 0x0A) ∧
        (linesOf s.historyPane.toList = rows ++ [[]] ↔ ∀ e ∈ shown, e.command ≠ 0x0A) := by
  intro s g
  obtain ⟨m, hlockstep⟩ := Lockstep.of_open? opened events
  refine ⟨m, hlockstep.loaded, ?_⟩
  intro steps shown
  have hsteps : s.history.toList = steps := hlockstep.history
  have hsize : steps.length = s.history.size := by rw [← hsteps, Array.length_toList]
  have hpane : s.historyPane.toList = closedLines (historyRows shown) := by
    rw [s.toList_historyPane, hsteps]
  refine ⟨hsize, historyRows shown, hpane, ?_, fun i row hrow => ?_, ?_, ?_⟩
  · rw [length_historyRows, List.length_drop]
    omega
  · obtain ⟨e, he, rfl⟩ := getElem?_historyRows hrow
    refine ⟨e, he, ?_, count_historyRow _ e⟩
    rw [Executed.read?_historyRow, length_historyRows]
  · rw [hpane, count_historyRows, length_historyRows]
  · rw [hpane, linesOf_historyRows_iff]

/-- Two steps, the second with an output: each has its line. -/
theorem history_pane_shows_last_steps_output :
    let settings : Settings := { program := ⟨1, [0x61], [0x2B, 0x2E]⟩, tapeSize := 1 }
    let events : List Screen.Event :=
      [.message (.key { text := "s" }), .message (.key { text := "s" })]
    ∃ r, Screen.open? settings = .ok r ∧
      ∃ first second, linesOf (r.screen.run events).historyPane.toList = [first, second, []] ∧
        Executed.read? first = some (false, ⟨0, 0x2B, 0, none⟩) ∧
        Executed.read? second = some (true, ⟨1, 0x2E, 0, some 1⟩) := by
  intro settings events
  refine ⟨_, rfl, ?_⟩
  obtain ⟨m, hload, hsize, rows, -, hlength, hrows, -, hlines⟩ :=
    @history_pane_shows_last_steps settings _ rfl events
  obtain rfl := Except.ok.inj hload
  obtain ⟨first, second, rfl⟩ := List.length_eq_two.mp (hlength.trans (by decide +kernel))
  refine ⟨first, second, hlines.mpr (by decide +kernel), ?_, ?_⟩
  · obtain ⟨e, he, hread, -⟩ := hrows 0 first rfl
    have hfirst := he.symm.trans (show _ = some ⟨0, 0x2B, 0, none⟩ by decide +kernel)
    rw [hread, Option.some.inj hfirst]
    rfl
  · obtain ⟨e, he, hread, -⟩ := hrows 1 second rfl
    have hsecond := he.symm.trans (show _ = some ⟨1, 0x2E, 0, some 1⟩ by decide +kernel)
    rw [hread, Option.some.inj hsecond]
    rfl

/-- A program of one line end: its only step has two lines in the pane. -/
theorem history_pane_breaks_line :
    let settings : Settings := { program := ⟨1, [0x61], [0x0A]⟩, tapeSize := 1 }
    let events : List Screen.Event := [.message (.key { text := "s" })]
    ∃ r, Screen.open? settings = .ok r ∧
      (r.screen.run events).history.toList = [⟨0, 0x0A, 0, none⟩] ∧
      (r.screen.run events).historyPane.toList.count '\n' = 2 ∧
      linesOf (r.screen.run events).historyPane.toList =
        ["*      0  ".toList, "  p=0".toList, []] := by
  intro settings events
  exact ⟨_, rfl, by decide +kernel, by decide +kernel, by decide +kernel⟩

end TapeDeck
