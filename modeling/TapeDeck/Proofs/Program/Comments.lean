import TapeDeck.Proofs.Program.Partner

/-!
# Programs without their comments

A byte that is no command is a comment. `stripComments` takes the comments out of a program, which
moves every command to the number of commands before it (`commandsBefore`). Brackets are commands,
so the two scans of the stripped program pass the same brackets in the same order: what they find is
what they find in the whole program, moved (`findClose_strip`, `findOpen_strip`). This holds at
every position and depth, whether the program is balanced or not.
-/

namespace TapeDeck

/-- A program without its comments. -/
def stripComments (source : Bytes) : Bytes :=
  source.filter isCommand

/-- The number of commands before position `i`, which is where a command at `i` stands without the
comments. -/
def commandsBefore (source : Bytes) (i : Nat) : Nat :=
  (source.take i).countP isCommand

section Positions

variable {source : Bytes} {i : Nat} {b : UInt8}

theorem commandsBefore_succ (hb : source[i]? = some b) (hc : isCommand b = true) :
    commandsBefore source (i + 1) = commandsBefore source i + 1 := by
  unfold commandsBefore
  rw [List.take_add_one, hb, List.countP_append]
  simp [hc]

theorem commandsBefore_succ_comment (hb : source[i]? = some b) (hc : isCommand b = false) :
    commandsBefore source (i + 1) = commandsBefore source i := by
  unfold commandsBefore
  rw [List.take_add_one, hb, List.countP_append]
  simp [hc]

/-- The stripped program in two parts. -/
theorem stripComments_split (source : Bytes) (i : Nat) :
    stripComments source =
      (source.take i).filter isCommand ++ (source.drop i).filter isCommand := by
  unfold stripComments
  rw [← List.filter_append, List.take_append_drop]

theorem getElem?_strip_at (source : Bytes) (i : Nat) :
    (stripComments source)[commandsBefore source i]? = ((source.drop i).filter isCommand)[0]? := by
  rw [stripComments_split source i, commandsBefore, List.countP_eq_length_filter,
    List.getElem?_append_right (Nat.le_refl _), Nat.sub_self]

/-- A command keeps its byte. -/
theorem getElem?_strip (hb : source[i]? = some b) (hc : isCommand b = true) :
    (stripComments source).toArray[commandsBefore source i]? = some b := by
  obtain ⟨hi, rfl⟩ := List.getElem?_eq_some_iff.mp hb
  rw [List.getElem?_toArray, getElem?_strip_at, List.drop_eq_getElem_cons hi,
    List.filter_cons_of_pos hc]
  rfl

/-- The end stays the end. -/
theorem getElem?_strip_end (hb : source[i]? = none) :
    (stripComments source).toArray[commandsBefore source i]? = none := by
  rw [List.getElem?_toArray, getElem?_strip_at,
    List.drop_of_length_le (List.getElem?_eq_none_iff.mp hb)]
  rfl

end Positions

/-! ## Scans -/

section Scans

variable {source : Bytes}

/-- **The forward scan does not see comments.** -/
theorem findClose_strip (d i : Nat) :
    findClose (stripComments source).toArray d (commandsBefore source i) =
      (findClose source.toArray d i).map (commandsBefore source) := by
  fun_induction findClose source.toArray d i with
  | case1 d i hi hb ih =>
    have hb := getElem?_of_toArray hi hb
    rw [findClose_open (getElem?_strip hb (by decide)), ← commandsBefore_succ hb (by decide)]
    exact ih
  | case2 i hi ho hc =>
    have hb := getElem?_of_toArray hi hc
    rw [findClose_close_zero (getElem?_strip hb (by decide))]
    rfl
  | case3 i hi ho hc d ih =>
    have hb := getElem?_of_toArray hi hc
    rw [findClose_close_succ (getElem?_strip hb (by decide)), ← commandsBefore_succ hb (by decide)]
    exact ih
  | case4 d i hi ho hc ih =>
    have hb := getElem?_of_toArray hi rfl
    cases hcommand : isCommand source.toArray[i] with
    | true =>
      rw [findClose_plain (getElem?_strip hb hcommand) ho hc, ← commandsBefore_succ hb hcommand]
      exact ih
    | false =>
      -- a comment moves the scan of the whole program only
      rw [← commandsBefore_succ_comment hb hcommand]
      exact ih
  | case5 d i hi =>
    have hend : source[i]? = none := by simpa using hi
    exact findClose_end (getElem?_strip_end hend)

/-- **The backward scan does not see comments.** -/
theorem findOpen_strip (d i : Nat) :
    findOpen (stripComments source).toArray d (commandsBefore source i) =
      (findOpen source.toArray d i).map (commandsBefore source) := by
  induction i generalizing d with
  | zero => simp [commandsBefore, findOpen]
  | succ i ih =>
    cases hb : source[i]? with
    | none =>
      have hb' : source.toArray[i]? = none := by simpa using hb
      have hlen : source.length ≤ i := List.getElem?_eq_none_iff.mp hb
      have hstay : commandsBefore source (i + 1) = commandsBefore source i := by
        unfold commandsBefore
        rw [List.take_of_length_le hlen, List.take_of_length_le (by omega)]
      rw [hstay, ih, findOpen_plain (by simp [hb']) (by simp [hb'])]
    | some b =>
      have hb' : source.toArray[i]? = some b := by simpa using hb
      cases hcommand : isCommand b with
      | false =>
        have ho : b ≠ openByte := by rintro rfl; exact absurd hcommand (by decide)
        have hc : b ≠ closeByte := by rintro rfl; exact absurd hcommand (by decide)
        rw [commandsBefore_succ_comment hb hcommand, ih,
          findOpen_plain (getElem?_ne_of_ne hb' ho) (getElem?_ne_of_ne hb' hc)]
      | true =>
        have hmoved := getElem?_strip hb hcommand
        rw [commandsBefore_succ hb hcommand]
        by_cases hc : b = closeByte
        · subst hc
          rw [findOpen_close hmoved, findOpen_close hb', ih]
        · by_cases ho : b = openByte
          · subst ho
            cases d with
            | zero =>
              rw [findOpen_open_zero hmoved, findOpen_open_zero hb']
              rfl
            | succ d => rw [findOpen_open_succ hmoved, findOpen_open_succ hb', ih]
          · rw [findOpen_plain (getElem?_ne_of_ne hmoved ho) (getElem?_ne_of_ne hmoved hc), ih,
              findOpen_plain (getElem?_ne_of_ne hb' ho) (getElem?_ne_of_ne hb' hc)]

/-- The partner of a command, moved. -/
theorem partnerOf?_strip {i : Nat} {b : UInt8} (hb : source[i]? = some b)
    (hcommand : isCommand b = true) :
    partnerOf? (stripComments source).toArray (commandsBefore source i) =
      (partnerOf? source.toArray i).map (commandsBefore source) := by
  have hb' : source.toArray[i]? = some b := by simpa using hb
  have hmoved := getElem?_strip hb hcommand
  by_cases ho : b = openByte
  · subst ho
    rw [partnerOf?_open hmoved, partnerOf?_open hb', closeOf?, ← commandsBefore_succ hb hcommand]
    exact findClose_strip 0 (i + 1)
  · by_cases hc : b = closeByte
    · subst hc
      rw [partnerOf?_close hmoved, partnerOf?_close hb']
      exact findOpen_strip 0 i
    · rw [partnerOf?_plain (getElem?_ne_of_ne hmoved ho) (getElem?_ne_of_ne hmoved hc),
        partnerOf?_plain (getElem?_ne_of_ne hb' ho) (getElem?_ne_of_ne hb' hc)]
      rfl

end Scans

end TapeDeck
