import TapeDeck.Sound.Wav

/-!
# What the calls leave in a file

The writer makes two kinds of writes. As long as it is at the end of the file a write adds its
data there (`write_atEnd`), so the calls up to the samples leave their data in a row
(`after_writes`). A write that falls inside the file replaces as many bytes as it has
(`write_inside`), and this is how the two sizes are put in: the placeholders have the width of the
sizes, so nothing moves.

`wavBytes` is the file as a layout, with the two sizes as parameters. The calls lead from the
layout with placeholders to the layout with the sizes (`after_wavCalls`); a writing that ends
without an error has made all of the calls (`performFrom_fst`), and where no call is refused it
does end so (`performFrom_no_faults`).
-/

namespace TapeDeck

/-- Whether a call is a write. -/
def WavCall.isWrite : WavCall → Bool
  | write _ _ => true
  | seek _ => false

/-- The data of a call; a seek has none. -/
def WavCall.data : WavCall → Bytes
  | write _ data => data
  | seek _ => []

namespace WavFile

/-- The file after calls that are all made. -/
def after (f : WavFile) (calls : List WavCall) : WavFile :=
  calls.foldl apply f

/-- A file with its position at the end. -/
def atEnd (bytes : Bytes) : WavFile := ⟨bytes, bytes.length⟩

@[simp] theorem after_nil (f : WavFile) : f.after [] = f := rfl

@[simp] theorem after_cons (f : WavFile) (call : WavCall) (calls : List WavCall) :
    f.after (call :: calls) = (f.apply call).after calls := rfl

theorem after_append (f : WavFile) (calls more : List WavCall) :
    f.after (calls ++ more) = (f.after calls).after more :=
  List.foldl_append

/-! ## Writes at the end and inside -/

theorem write_atEnd (bytes data : Bytes) : (atEnd bytes).write data = atEnd (bytes ++ data) := by
  simp [atEnd, write, splice_eq]

/-- Writes at the end leave their data in a row. -/
theorem after_writes (bytes : Bytes) {calls : List WavCall} (h : ∀ call ∈ calls, call.isWrite) :
    (atEnd bytes).after calls = atEnd (bytes ++ calls.flatMap WavCall.data) := by
  induction calls generalizing bytes with
  | nil => simp
  | cons call calls ih =>
    obtain ⟨hcall, hcalls⟩ := List.forall_mem_cons.mp h
    cases call with
    | seek _ => cases hcall
    | write _ data =>
      simp only [after_cons, apply, write_atEnd, ih _ hcalls, List.flatMap_cons, WavCall.data,
        List.append_assoc]

/-- A write inside replaces as many bytes as it has, and the others stay where they are. -/
theorem write_inside (before old behind data : Bytes) (h : old.length = data.length) :
    write ⟨before ++ (old ++ behind), before.length⟩ data =
      ⟨before ++ (data ++ behind), before.length + data.length⟩ := by
  have hdrop : (before ++ (old ++ behind)).drop (before.length + data.length) = behind := by
    rw [← List.append_assoc, ← h, ← List.length_append, List.drop_left]
  simp only [write, List.take_left, hdrop, splice_eq]

end WavFile

/-! ## The layout -/

/-- What stands between the two sizes. -/
def formatBytes : Bytes :=
  Bytes.ofString "WAVE" ++ Bytes.ofString "fmt " ++ littleEndian 4 16 ++ littleEndian 2 1 ++
    littleEndian 2 1 ++ littleEndian 4 44100 ++ littleEndian 4 88200 ++ littleEndian 2 2 ++
    littleEndian 2 16 ++ Bytes.ofString "data"

/-- A file with the given sizes and sample data. -/
def wavBytes (riffSize dataSize : Nat) (data : Bytes) : Bytes :=
  Bytes.ofString "RIFF" ++
    (littleEndian 4 riffSize ++ (formatBytes ++ (littleEndian 4 dataSize ++ data)))

theorem length_wavBytes (riffSize dataSize : Nat) (data : Bytes) :
    (wavBytes riffSize dataSize data).length = headerLength + data.length := by
  simp only [wavBytes, List.length_append, length_littleEndian]
  have htag : (Bytes.ofString "RIFF").length = 4 := by decide
  have hformat : formatBytes.length = 32 := by decide
  rw [htag, hformat, headerLength]
  omega

theorem drop_wavBytes (riffSize dataSize : Nat) (data : Bytes) :
    (wavBytes riffSize dataSize data).drop headerLength = data := by
  rfl

/-- Up to the samples both sizes are placeholders. -/
theorem after_headerCalls (data : Bytes) :
    WavFile.after {} (headerCalls ++ [.write .samples data]) =
      .atEnd (wavBytes sizePlaceholder sizePlaceholder data) := by
  have hwrites : ∀ call ∈ headerCalls ++ [.write .samples data], call.isWrite := by
    simp [headerCalls, WavCall.isWrite]
  have hdata : (headerCalls ++ [WavCall.write .samples data]).flatMap WavCall.data =
      wavBytes sizePlaceholder sizePlaceholder data := by
    simp [headerCalls, WavCall.data, wavBytes, formatBytes, sampleRate, bitDepth]
  rw [← hdata]
  exact WavFile.after_writes [] hwrites

/-- The first patch puts in the size of the file. -/
theorem after_riffSize (file : WavFile) (riffSize dataSize size : Nat) (data : Bytes)
    (h : file.bytes = wavBytes riffSize dataSize data) :
    file.after [.seek (.offset 4), .write .riffSize (littleEndian 4 size)] =
      ⟨wavBytes size dataSize data, 8⟩ := by
  simp only [WavFile.after_cons, WavFile.apply, WavFile.seek, h, WavFile.after_nil]
  exact WavFile.write_inside (Bytes.ofString "RIFF") _ _ _
    (by simp only [length_littleEndian])

/-- The second patch puts in the size of the samples. -/
theorem after_dataSize (file : WavFile) (riffSize dataSize size : Nat) (data : Bytes)
    (h : file.bytes = wavBytes riffSize dataSize data) :
    file.after [.seek (.offset 40), .write .dataSize (littleEndian 4 size)] =
      ⟨wavBytes riffSize size data, 44⟩ := by
  have hbefore : ∀ rest : Bytes, Bytes.ofString "RIFF" ++
      (littleEndian 4 riffSize ++ (formatBytes ++ rest)) =
      (Bytes.ofString "RIFF" ++ littleEndian 4 riffSize ++ formatBytes) ++ rest := by
    simp
  simp only [WavFile.after_cons, WavFile.apply, WavFile.seek, h, WavFile.after_nil, wavBytes,
    hbefore]
  exact WavFile.write_inside _ _ _ _ (by simp only [length_littleEndian])

/-- All calls together leave the layout with both sizes. -/
theorem after_wavCalls (data : Bytes) :
    WavFile.after {} (wavCalls data) =
      .atEnd (wavBytes (headerLength + data.length - 8) data.length data) := by
  have hsplit : wavCalls data = (headerCalls ++ [.write .samples data]) ++
      ([.seek (.offset 4), .write .riffSize (littleEndian 4 (headerLength + data.length - 8))] ++
      ([.seek (.offset 40), .write .dataSize (littleEndian 4 data.length)] ++
      [.seek .endOfFile])) := by
    simp [wavCalls, sizeCalls]
  rw [hsplit, WavFile.after_append, after_headerCalls, WavFile.after_append,
    after_riffSize _ _ _ _ _ rfl, WavFile.after_append, after_dataSize _ _ _ _ _ rfl]
  rfl

/-! ## Writing -/

/-- A writing that ends without an error has made all of its calls. -/
theorem performFrom_fst {faults : WavFaults} {calls : List WavCall} {writes seeks : Nat}
    {f : WavFile} (h : (performFrom faults calls writes seeks f).2 = none) :
    (performFrom faults calls writes seeks f).1 = f.after calls := by
  induction calls generalizing writes seeks f with
  | nil => rfl
  | cons call calls ih =>
    cases hrefusal : faults.refusal writes seeks call with
    | some e => cases call <;> simp [performFrom, hrefusal] at h
    | none =>
      cases call with
      | write field data =>
        simp only [performFrom, hrefusal] at h ⊢
        exact ih h
      | seek target =>
        simp only [performFrom, hrefusal] at h ⊢
        exact ih h

/-- Where no call is refused, the writing ends without an error. -/
theorem performFrom_no_faults (calls : List WavCall) (writes seeks : Nat) (f : WavFile) :
    (performFrom {} calls writes seeks f).2 = none := by
  induction calls generalizing writes seeks f with
  | nil => rfl
  | cons call calls ih =>
    cases call with
    | write field data => exact ih _ _ _
    | seek target => exact ih _ _ _

theorem Track.toWav_eq (tr : Track) (faults : WavFaults) :
    tr.toWav faults = ((perform faults tr.calls).1.bytes, (perform faults tr.calls).2) := rfl

theorem Track.snd_toWav_no_faults (tr : Track) : (tr.toWav {}).2 = none := by
  rw [toWav_eq]
  exact performFrom_no_faults _ _ _ _

/-- **A file that was written is the layout** with its own sizes. -/
theorem Track.toWav_eq_wavBytes {tr : Track} {faults : WavFaults} {file : Bytes}
    (h : tr.toWav faults = (file, none)) :
    file = wavBytes (headerLength + tr.data.length - 8) tr.data.length tr.data := by
  rw [toWav_eq, Prod.mk.injEq] at h
  obtain ⟨rfl, hnone⟩ := h
  rw [perform, performFrom_fst hnone, calls, after_wavCalls]
  rfl

end TapeDeck
