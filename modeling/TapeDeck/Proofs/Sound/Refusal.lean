import TapeDeck.Proofs.Sound.Reading
import Mathlib.Data.List.Infix

/-!
# What a refused call leaves behind

A file can refuse any one of its writes or of its seeks. Calls are told apart by their turn, the
number of the call among those of its kind (`WavTurn`), and the turns of a list of calls are in
their order (`turnsFrom`). The calls of a track have the same 19 turns whatever the track is
(`Track.turnsFrom_calls`), since the samples are one write, also where there are none.

Writing stops at the call whose turn is refused, if there is one: the file is what the calls before
it leave, and the error is that of the call (`performFrom_only`). What the calls before it leave
depends on how far they go. Up to the samples they are writes at the end, so they leave a beginning
of the header (`bytes_after_header`). From the samples on the file has its full length, and the two
sizes are put in one after the other (`bytes_after_sizes`).

**`written_wav_is_complete`** puts this together: a writing without an error has left the complete
file, and what every refusal leaves is a beginning of it with placeholders, or all of it with one
size or both still to be put in.
-/

namespace TapeDeck

/-! ## Turns -/

/-- A call of a writing: a write or a seek, by its number among those of its kind, from one. -/
inductive WavTurn where
  | write (k : Nat)
  | seek (k : Nat)
  deriving DecidableEq, Repr

/-- The turns of calls, in order, when `writes` writes and `seeks` seeks were made before them. -/
def turnsFrom : Nat → Nat → List WavCall → List WavTurn
  | _, _, [] => []
  | writes, seeks, .write _ _ :: rest => .write (writes + 1) :: turnsFrom (writes + 1) seeks rest
  | writes, seeks, .seek _ :: rest => .seek (seeks + 1) :: turnsFrom writes (seeks + 1) rest

/-- A file that refuses one turn and nothing else. -/
def WavFaults.only (turn : WavTurn) (why : String) : WavFaults where
  write k := if turn = .write k then some why else none
  seek k := if turn = .seek k then some why else none

/-- The error of a call that is refused. -/
def WavCall.refused (why : String) : WavCall → WavError
  | write field _ => .write field why
  | seek _ => .seek why

theorem WavFaults.refusal_only_write (turn : WavTurn) (why : String) (writes seeks : Nat)
    (field : WavField) (data : Bytes) :
    (only turn why).refusal writes seeks (.write field data) =
      if turn = .write (writes + 1) then some (.write field why) else none := by
  unfold refusal only
  by_cases h : turn = .write (writes + 1) <;> simp [h]

theorem WavFaults.refusal_only_seek (turn : WavTurn) (why : String) (writes seeks : Nat)
    (target : WavTarget) :
    (only turn why).refusal writes seeks (.seek target) =
      if turn = .seek (seeks + 1) then some (.seek why) else none := by
  unfold refusal only
  by_cases h : turn = .seek (seeks + 1) <;> simp [h]

/-- **Writing stops at the turn that is refused.** The file is what the calls before it leave, and
the error is that of the call. If it is no call's turn, all calls are made. -/
theorem performFrom_only (turn : WavTurn) (why : String) (calls : List WavCall)
    (writes seeks : Nat) (f : WavFile) :
    performFrom (.only turn why) calls writes seeks f =
      (f.after (calls.take ((turnsFrom writes seeks calls).idxOf turn)),
        calls[(turnsFrom writes seeks calls).idxOf turn]?.map (WavCall.refused why)) := by
  induction calls generalizing writes seeks f with
  | nil => rfl
  | cons call calls ih =>
    cases call with
    | write field data =>
      by_cases hturn : turn = .write (writes + 1)
      · simp [performFrom, turnsFrom, WavFaults.refusal_only_write, hturn, WavCall.refused]
      · simp [performFrom, turnsFrom, WavFaults.refusal_only_write, hturn, ih,
          List.idxOf_cons_ne _ (Ne.symm hturn)]
    | seek target =>
      by_cases hturn : turn = .seek (seeks + 1)
      · simp [performFrom, turnsFrom, WavFaults.refusal_only_seek, hturn, WavCall.refused]
      · simp [performFrom, turnsFrom, WavFaults.refusal_only_seek, hturn, ih,
          List.idxOf_cons_ne _ (Ne.symm hturn)]

theorem length_turnsFrom (writes seeks : Nat) (calls : List WavCall) :
    (turnsFrom writes seeks calls).length = calls.length := by
  induction calls generalizing writes seeks with
  | nil => rfl
  | cons call calls ih => cases call <;> simp [turnsFrom, ih]

/-! ## The turns of a track -/

/-- The turns of writing a track: the header and the samples, and then the sizes. -/
def wavTurns : List WavTurn :=
  (List.range' 1 14).map .write ++ [.seek 1, .write 15, .seek 2, .write 16, .seek 3]

/-- The turns that come when a track is written: there are 16 writes and 3 seeks. -/
def WavTurn.Comes : WavTurn → Prop
  | write k => 1 ≤ k ∧ k ≤ 16
  | seek k => 1 ≤ k ∧ k ≤ 3

theorem mem_wavTurns_iff {turn : WavTurn} : turn ∈ wavTurns ↔ turn.Comes := by
  unfold wavTurns WavTurn.Comes
  cases turn with
  | write k =>
    simp only [List.mem_append, List.mem_map, List.mem_range'_1, WavTurn.write.injEq,
      exists_eq_right, List.mem_cons, reduceCtorEq, List.not_mem_nil, or_false, false_or]
    omega
  | seek k =>
    simp only [List.mem_append, List.mem_map, reduceCtorEq, and_false, exists_const,
      List.mem_cons, WavTurn.seek.injEq, List.not_mem_nil, or_false, false_or]
    omega

theorem Track.turnsFrom_calls (tr : Track) : turnsFrom 0 0 tr.calls = wavTurns := rfl

/-! ## What is left -/

/-- Up to the samples the file is a beginning of the header. -/
theorem bytes_after_header (data : Bytes) {i : Nat} (h : i < 14) :
    (WavFile.after {} ((wavCalls data).take i)).bytes <+:
      (wavBytes sizePlaceholder sizePlaceholder data).take headerLength := by
  have hcalls : (wavCalls data).take i = headerCalls.take i :=
    List.take_append_of_le_length (Nat.le_of_lt_succ h)
  have hwrites : ∀ call ∈ headerCalls, call.isWrite := by decide
  have hleft : WavFile.after {} (headerCalls.take i) =
      .atEnd ((headerCalls.take i).flatMap WavCall.data) :=
    WavFile.after_writes [] fun call hcall => hwrites call (List.mem_of_mem_take hcall)
  have hheader : (wavBytes sizePlaceholder sizePlaceholder data).take headerLength =
      headerCalls.flatMap WavCall.data := rfl
  rw [hcalls, hleft, hheader]
  exact (List.take_prefix i headerCalls).flatMap WavCall.data

/-- After the samples the sizes are put in, each by a seek and a write. -/
theorem bytes_after_sizes (data : Bytes) (j : Nat) :
    ((WavFile.atEnd (wavBytes sizePlaceholder sizePlaceholder data)).after
      ((sizeCalls data.length).take j)).bytes =
      wavBytes (if j < 2 then sizePlaceholder else headerLength + data.length - 8)
        (if j < 4 then sizePlaceholder else data.length) data := by
  have hriff := after_riffSize (.atEnd (wavBytes sizePlaceholder sizePlaceholder data))
    sizePlaceholder sizePlaceholder (headerLength + data.length - 8) data rfl
  have hdata := after_dataSize ⟨wavBytes (headerLength + data.length - 8) sizePlaceholder data, 8⟩
    (headerLength + data.length - 8) sizePlaceholder data.length data rfl
  have hboth : (WavFile.atEnd (wavBytes sizePlaceholder sizePlaceholder data)).after
      ((sizeCalls data.length).take 4) =
      ⟨wavBytes (headerLength + data.length - 8) data.length data, 44⟩ := by
    rw [← hdata, ← hriff]
    rfl
  -- a seek changes no byte, so what it leaves is what the write before it has left
  match j with
  | 0 => rfl
  | 1 => rfl
  | 2 => exact congrArg WavFile.bytes hriff
  | 3 => exact congrArg WavFile.bytes hriff
  | 4 => exact congrArg WavFile.bytes hboth
  | j + 5 =>
    have hall : (sizeCalls data.length).take (j + 5) =
        (sizeCalls data.length).take 4 ++ [.seek .endOfFile] := by
      simp [sizeCalls]
    rw [hall, WavFile.after_append, hboth]
    rfl

/-- From the samples on the file has all bytes. -/
theorem bytes_after_samples (data : Bytes) {i : Nat} (h : 14 ≤ i) :
    (WavFile.after {} ((wavCalls data).take i)).bytes =
      wavBytes (if i < 16 then sizePlaceholder else headerLength + data.length - 8)
        (if i < 18 then sizePlaceholder else data.length) data := by
  obtain ⟨j, rfl⟩ := Nat.exists_eq_add_of_le h
  have hcalls : (wavCalls data).take (14 + j) =
      (headerCalls ++ [.write .samples data]) ++ (sizeCalls data.length).take j := by
    have hsplit : wavCalls data =
        (headerCalls ++ [.write .samples data]) ++ sizeCalls data.length := by simp [wavCalls]
    have hlength : (headerCalls ++ [WavCall.write .samples data]).length = 14 := rfl
    rw [hsplit, ← hlength, List.take_length_add_append]
  rw [hcalls, WavFile.after_append, after_headerCalls, bytes_after_sizes]
  congr 1
  · simp only [show 14 + j < 16 ↔ j < 2 by omega]
  · simp only [show 14 + j < 18 ↔ j < 4 by omega]

theorem Track.toWav_only (tr : Track) (turn : WavTurn) (why : String) :
    tr.toWav (.only turn why) =
      ((WavFile.after {} (tr.calls.take (wavTurns.idxOf turn))).bytes,
        tr.calls[wavTurns.idxOf turn]?.map (WavCall.refused why)) := by
  rw [toWav_eq, perform, performFrom_only, tr.turnsFrom_calls]

/-- There is an error exactly if the turn that is refused comes. -/
theorem Track.snd_toWav_only_ne_none_iff (tr : Track) (turn : WavTurn) (why : String) :
    (tr.toWav (.only turn why)).2 ≠ none ↔ turn.Comes := by
  rw [toWav_only, ← mem_wavTurns_iff, ← List.idxOf_lt_length_iff, ← tr.turnsFrom_calls,
    length_turnsFrom]
  simp

/-- **A file that was written is complete.** Writing a track makes 16 writes and 3 seeks, and if it
ends without an error, whatever the file would have refused, the file has all bytes and both sizes.
If one call is refused and no other, there is an error exactly if its turn comes: it is that of the
call, and the file is what the calls before it leave. Up to the samples, which are the last of the
first 14 writes, this is a beginning of the header with placeholders for the sizes. After them it is
all of the file, first with both placeholders, then with the first size, and before the last seek
with both sizes. -/
theorem written_wav_is_complete (tr : Track) :
    let n := 22050 * tr.size
    let layout := fun riffSize dataSize => wavBytes riffSize dataSize tr.data
    turnsFrom 0 0 tr.calls = wavTurns ∧
      (∀ riffSize dataSize, (layout riffSize dataSize).length = 44 + n) ∧
      tr.toWav {} = (layout (36 + n) n, none) ∧
      (∀ faults file, tr.toWav faults = (file, none) → file = layout (36 + n) n) ∧
      ∀ (turn : WavTurn) (why : String),
        let i := wavTurns.idxOf turn
        let file := (tr.toWav (.only turn why)).1
        let error := (tr.toWav (.only turn why)).2
        (error ≠ none ↔ turn.Comes) ∧
        error = tr.calls[i]?.map (WavCall.refused why) ∧
        file = (WavFile.after {} (tr.calls.take i)).bytes ∧
        (∀ k, turn = .write k → 1 ≤ k → k ≤ 14 → file <+: (layout 42 42).take 44) ∧
        (turn = .seek 1 ∨ turn = .write 15 → file = layout 42 42) ∧
        (turn = .seek 2 ∨ turn = .write 16 → file = layout (36 + n) 42) ∧
        (turn = .seek 3 ∨ ¬ turn.Comes → file = layout (36 + n) n) := by
  intro n layout
  have hlength : tr.data.length = n := tr.length_data
  have htotal : headerLength + n - 8 = 36 + n := by
    unfold headerLength
    omega
  have hcomplete {faults : WavFaults} {file : Bytes} (h : tr.toWav faults = (file, none)) :
      file = layout (36 + n) n := by
    rw [Track.toWav_eq_wavBytes h, hlength, htotal]
  refine ⟨tr.turnsFrom_calls, fun riffSize dataSize => ?_, ?_, fun faults file => hcomplete,
    fun turn why => ?_⟩
  · rw [length_wavBytes, hlength, headerLength]
  · have hnone := tr.snd_toWav_no_faults
    rcases hwav : tr.toWav {} with ⟨file, error⟩
    rw [hwav] at hnone
    subst hnone
    rw [hcomplete hwav]
  intro i
  have hleft := tr.toWav_only turn why
  have hcomes := tr.snd_toWav_only_ne_none_iff turn why
  rcases hwav : tr.toWav (.only turn why) with ⟨file, error⟩
  rw [hwav] at hleft hcomes
  obtain ⟨hfile, herror⟩ := Prod.mk.inj hleft
  have hsamples (hi : 14 ≤ i) :
      file = layout (if i < 16 then 42 else 36 + n) (if i < 18 then 42 else n) := by
    have hbytes := bytes_after_samples tr.data hi
    rw [hlength, htotal] at hbytes
    exact hfile.trans hbytes
  refine ⟨hcomes, herror, hfile, fun k hturn hfirst hlast => ?_, fun hturn => ?_, fun hturn => ?_,
    fun hturn => ?_⟩
  · have hi : ∀ k ≤ 14, 1 ≤ k → wavTurns.idxOf (.write k) < 14 := by decide
    rw [hfile]
    exact bytes_after_header tr.data (hturn ▸ hi k hlast hfirst)
  · rcases hturn with rfl | rfl <;> exact hsamples (by decide)
  · rcases hturn with rfl | rfl <;> exact hsamples (by decide)
  · rcases hturn with rfl | hturn
    · exact hsamples (by decide)
    · have hnone : error = none := by rwa [← hcomes, not_not] at hturn
      exact hcomplete (hnone ▸ hwav)

end TapeDeck
