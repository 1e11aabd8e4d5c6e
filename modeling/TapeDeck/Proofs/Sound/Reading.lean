import TapeDeck.Proofs.Sound.Writing
import Mathlib.Algebra.Group.Nat.Defs

/-!
# Reading a WAV file back

A reader of its own, which knows the layout of the header by offsets and nothing of the writer.
A number is what its bytes stand for, least significant first (`readUnsigned`), a sample is two
bytes in two's complement (`readSample`), and a header is refused unless its four tags are in
place (`readHeader?`).

Reading a number gives it back modulo the range of its width (`readUnsigned_littleEndian`), so a
size that does not fit wraps around; the sizes of a track fit up to 194783 tones
(`sizes_fit_iff`). A sample comes back modulo 65536 in the symmetric range (`readSamples_flatMap`),
so a sample of 16 bits comes back as it was. The samples of a track lie in blocks, one for each
tone (`Track.getElem?_samples`), and the sample data of an extended track begins with the data of
the track (`Track.data_isPrefix`). `sampleOf` writes out what the samples of a tone are: a sine of
its frequency, with its gain, that fades out until the end of the tone. Of the sine nothing is known
here, so the only tones whose samples are known as numbers are those without gain
(`sample_tone_zero`).

**`wav_round_trip`**: a file that was written without an error reads back as the track.
-/

namespace TapeDeck

/-! ## The reader -/

/-- The number that bytes stand for, least significant first. -/
def readUnsigned (bytes : Bytes) : Nat :=
  bytes.foldr (fun b n => b.toNat + 256 * n) 0

/-- The number that two bytes stand for in two's complement. -/
def readSample (low high : UInt8) : Int :=
  (high.toBitVec ++ low.toBitVec).toInt

/-- The samples of two bytes each. A byte left over is no sample. -/
def readSamples : Bytes → List Int
  | low :: high :: rest => readSample low high :: readSamples rest
  | _ => []

/-- The numbers of a header. -/
structure WavHeader where
  riffSize : Nat
  formatSize : Nat
  formatKind : Nat
  channels : Nat
  rate : Nat
  byteRate : Nat
  blockAlign : Nat
  depth : Nat
  dataSize : Nat
  deriving DecidableEq, Repr

/-- So many bytes at an offset. -/
def bytesAt (file : Bytes) (offset width : Nat) : Bytes :=
  (file.drop offset).take width

/-- The header of a file: 44 bytes with four tags and nine numbers at fixed offsets. -/
def readHeader? (file : Bytes) : Option WavHeader :=
  if 44 ≤ file.length ∧ bytesAt file 0 4 = Bytes.ofString "RIFF" ∧
      bytesAt file 8 4 = Bytes.ofString "WAVE" ∧ bytesAt file 12 4 = Bytes.ofString "fmt " ∧
      bytesAt file 36 4 = Bytes.ofString "data" then
    some {
      riffSize := readUnsigned (bytesAt file 4 4)
      formatSize := readUnsigned (bytesAt file 16 4)
      formatKind := readUnsigned (bytesAt file 20 2)
      channels := readUnsigned (bytesAt file 22 2)
      rate := readUnsigned (bytesAt file 24 4)
      byteRate := readUnsigned (bytesAt file 28 4)
      blockAlign := readUnsigned (bytesAt file 32 2)
      depth := readUnsigned (bytesAt file 34 2)
      dataSize := readUnsigned (bytesAt file 40 4) }
  else none

/-- The header of uncompressed mono sound in 16 bits, 44100 times a second. -/
def monoHeader (riffSize dataSize : Nat) : WavHeader where
  riffSize := riffSize
  formatSize := 16
  formatKind := 1
  channels := 1
  rate := 44100
  byteRate := 88200
  blockAlign := 2
  depth := 16
  dataSize := dataSize

/-! ## Numbers and samples -/

theorem readUnsigned_littleEndian (width n : Nat) :
    readUnsigned (littleEndian width n) = n % 256 ^ width := by
  induction width generalizing n with
  | zero => simp [littleEndian, readUnsigned, Nat.mod_one]
  | succ width ih =>
    have hcons : readUnsigned (littleEndian (width + 1) n) =
        n % 256 + 256 * readUnsigned (littleEndian width (n / 256)) := by
      simp [littleEndian, readUnsigned]
    rw [hcons, ih, Nat.pow_succ', Nat.mod_mul]

theorem length_flatMap_sampleBytes (xs : List Int) :
    (xs.flatMap sampleBytes).length = 2 * xs.length := by
  induction xs with
  | nil => rfl
  | cons x xs ih =>
    simp only [List.flatMap_cons, List.length_append, length_sampleBytes, ih, List.length_cons]
    omega

/-- The two bytes of a sample stand for it in the symmetric range of 16 bits. -/
theorem readSample_bytes (x : Int) :
    readSample (x % 65536).toNat.toUInt8 ((x % 65536).toNat / 256).toUInt8 = x.bmod 65536 := by
  have happend : ((x % 65536).toNat / 256).toUInt8.toBitVec ++
      (x % 65536).toNat.toUInt8.toBitVec = BitVec.ofInt 16 x := by
    apply BitVec.eq_of_toNat_eq
    rw [BitVec.toNat_append, BitVec.toNat_ofInt, ← Nat.shiftLeft_add_eq_or_of_lt (BitVec.isLt _)]
    simp only [UInt8.toNat_toBitVec, Nat.toUInt8_eq, UInt8.toNat_ofNat', Nat.shiftLeft_eq]
    omega
  rw [readSample, happend, BitVec.toInt_ofInt]

theorem readSamples_flatMap (xs : List Int) :
    readSamples (xs.flatMap sampleBytes) = xs.map (Int.bmod · 65536) := by
  induction xs with
  | nil => rfl
  | cons x xs ih =>
    rw [List.map_cons, ← ih, ← readSample_bytes x]
    rfl

/-- Samples of 16 bits come back as they were. -/
theorem readSamples_flatMap_of_range {xs : List Int} (h : ∀ x ∈ xs, -32767 ≤ x ∧ x ≤ 32767) :
    readSamples (xs.flatMap sampleBytes) = xs := by
  have hsame : ∀ x ∈ xs, x.bmod 65536 = id x := by
    intro x hx
    obtain ⟨hlow, hhigh⟩ := h x hx
    exact Int.bmod_eq_of_le (by omega) (by omega)
  rw [readSamples_flatMap, List.map_congr_left hsame, List.map_id]

example : readSamples ([-32767, -1, 0, 258, 32767].flatMap sampleBytes) =
    [-32767, -1, 0, 258, 32767] := by decide

/-! ## The header -/

theorem readHeader?_wavBytes (riffSize dataSize : Nat) (data : Bytes) :
    readHeader? (wavBytes riffSize dataSize data) =
      some (monoHeader (riffSize % 2 ^ 32) (dataSize % 2 ^ 32)) := by
  have hlength : 44 ≤ (wavBytes riffSize dataSize data).length := by
    rw [length_wavBytes, headerLength]
    omega
  have hnumber : ∀ {offset width : Nat} (n : Nat),
      bytesAt (wavBytes riffSize dataSize data) offset width = littleEndian width n →
      readUnsigned (bytesAt (wavBytes riffSize dataSize data) offset width) = n % 256 ^ width := by
    intro offset width n h
    rw [h, readUnsigned_littleEndian]
  rw [readHeader?, if_pos ⟨hlength, rfl, rfl, rfl, rfl⟩, hnumber riffSize rfl, hnumber 16 rfl,
    hnumber 1 rfl, hnumber 1 rfl, hnumber 44100 rfl, hnumber 88200 rfl, hnumber 2 rfl,
    hnumber 16 rfl, hnumber dataSize rfl]
  rfl

/-! ## Samples in blocks -/

/-- Sample `j` of a tone of the given frequency and gain: a sine that is taken 44100 times a second
and fades to nothing within 11025 samples, scaled to 32767 and cut to its whole part. -/
def sampleOf (freq gain : Float) (j : Nat) : Int :=
  let v := Float.sin (6.283185307179586 * freq * (Float.ofNat j / 44100)) * gain *
    (1 - Float.ofNat j / 11025) * 32767
  if v < 0 then -((-v).toUInt64.toNat : Int) else v.toUInt64.toNat

theorem Tone.sample_eq (tone : Tone) (j : Nat) : tone.sample j = sampleOf tone.freq tone.gain j :=
  rfl

theorem Tone.getElem?_samples (tone : Tone) {j : Nat} (hj : j < samplesPerTone) :
    tone.samples[j]? = some (tone.sample j) := by
  simp [Tone.samples, hj]

/-- The samples lie in blocks, one for each tone. -/
theorem getElem?_flatMap_samples (tones : List Tone) (i : Nat) {j : Nat}
    (hj : j < samplesPerTone) :
    (tones.flatMap Tone.samples)[samplesPerTone * i + j]? = tones[i]?.map (·.sample j) := by
  induction tones generalizing i with
  | nil => simp
  | cons tone tones ih =>
    cases i with
    | zero =>
      rw [List.flatMap_cons, List.getElem?_append_left (by rw [tone.length_samples]; omega)]
      simpa using tone.getElem?_samples hj
    | succ i =>
      have hpast : samplesPerTone * (i + 1) + j - samplesPerTone = samplesPerTone * i + j := by
        rw [Nat.mul_succ]
        omega
      rw [List.flatMap_cons, List.getElem?_append_right
        (by rw [tone.length_samples, Nat.mul_succ]; omega), tone.length_samples, hpast, ih]
      simp

theorem Track.getElem?_samples (tr : Track) (i : Nat) {j : Nat} (hj : j < samplesPerTone) :
    tr.samples[samplesPerTone * i + j]? = tr.tones[i]?.map (·.sample j) := by
  rw [samples, getElem?_flatMap_samples _ _ hj, Array.getElem?_toList]

theorem Track.length_data (tr : Track) : tr.data.length = 22050 * tr.size := by
  rw [data_eq_flatMap_samples, length_flatMap_sampleBytes, length_samples, samplesPerTone]
  omega

theorem Track.data_isPrefix {tr tr' : Track} (h : tr.tones.toList <+: tr'.tones.toList) :
    tr.data <+: tr'.data := by
  obtain ⟨more, hmore⟩ := h
  exact ⟨more.flatMap Tone.data, by rw [data, data, ← hmore, List.flatMap_append]⟩

/-! ## Silence -/

open Float.Model in
/-- A zero of either sign, or no number at all. -/
def Soundless (u : UnpackedFloat) : Prop :=
  u = .notANumber ∨ ∃ sign, u = .zero sign

theorem Soundless.pack {u : Float.Model.UnpackedFloat} (h : Soundless u) :
    Soundless (Float.Model.pack u).unpack := by
  obtain rfl | ⟨sign, rfl⟩ := h
  · exact .inl rfl
  · cases sign
    · exact .inr ⟨_, rfl⟩
    · exact .inr ⟨_, rfl⟩

/-- A product with a soundless factor is soundless, whatever the other factor is. -/
theorem soundless_mul {x y : Float}
    (h : Soundless x.toModel.unpack ∨ Soundless y.toModel.unpack) :
    Soundless (x * y).toModel.unpack := by
  refine Soundless.pack (u := .mul .binary64 x.toModel.unpack y.toModel.unpack) ?_
  generalize x.toModel.unpack = u, y.toModel.unpack = v at h ⊢
  obtain (rfl | ⟨sign, rfl⟩) | (rfl | ⟨sign, rfl⟩) := h
  · exact .inl rfl
  · cases v with
    | infinity | notANumber => exact .inl rfl
    | zero | finite => exact .inr ⟨_, rfl⟩
  · cases u <;> exact .inl rfl
  · cases u with
    | infinity | notANumber => exact .inl rfl
    | zero | finite => exact .inr ⟨_, rfl⟩

theorem unpack_zero : (0 : Float).toModel.unpack = .zero .positive := by rfl

theorem wholePart_of_soundless {x : Float} (h : Soundless x.toModel.unpack) : wholePart x = 0 := by
  have hword : x.toModel.unpack.toUInt64 = 0 := by
    obtain h | ⟨sign, h⟩ := h
    · rw [h]; rfl
    · rw [h]; rfl
  have hneg : ¬ x < 0 := by
    intro hlt
    have hlt : x.toModel.unpack.lt (0 : Float).toModel.unpack = true :=
      of_decide_eq_true (p := x.toModel < (0 : Float).toModel) hlt
    rw [unpack_zero] at hlt
    obtain h | ⟨sign, h⟩ := h
    · rw [h] at hlt; cases hlt
    · rw [h] at hlt; cases hlt
  rw [wholePart, if_neg hneg]
  change ((x.toModel.unpack.toUInt64).toNat : Int) = 0
  rw [hword]
  rfl

/-- A tone without gain has no sound. -/
theorem sample_tone_zero (c : Command) (i : Nat) : (c.tone 0).sample i = 0 := by
  have hgain : Soundless (c.tone 0).gain.toModel.unpack := .inr ⟨_, unpack_zero⟩
  -- the sine by the gain, then by the envelope, then by the peak
  have hsine := soundless_mul (x := Float.sin (fullTurn * (c.tone 0).freq *
    (Float.ofNat i / Float.ofNat sampleRate))) (.inr hgain)
  exact wholePart_of_soundless (soundless_mul (.inl (soundless_mul (.inl hsine))))

/-- Two tones without gain. -/
def rests : Track := ⟨#[Command.increment.tone 0, Command.output.tone 0], gainRise⟩

theorem samples_rests : rests.samples = List.replicate 22050 0 := by
  have htone : ∀ c : Command, (c.tone 0).samples = List.replicate 11025 0 := by
    intro c
    rw [Tone.samples, List.map_congr_left fun i _ => sample_tone_zero c i, List.map_const',
      List.length_range, samplesPerTone]
  have happend : rests.samples =
      (Command.increment.tone 0).samples ++ (Command.output.tone 0).samples := by
    simp [Track.samples, rests]
  rw [happend, htone, htone, List.replicate_append_replicate]

/-! ## The file of a track -/

/-- `HoldsTrack file tr`: the file is the WAV file of the track, as a reader sees it. -/
structure HoldsTrack (file : Bytes) (tr : Track) : Prop where
  length : file.length = 44 + 22050 * tr.size
  header : readHeader? file =
    some (monoHeader ((file.length - 8) % 2 ^ 32) ((file.length - 44) % 2 ^ 32))
  /-- The sizes are those of the file as long as they fit. -/
  sizes : readHeader? file = some (monoHeader (file.length - 8) (file.length - 44)) ↔
    tr.size ≤ 194783
  samples : readSamples (file.drop 44) = tr.samples

/-- Both sizes fit in 32 bits up to 194783 tones. -/
theorem sizes_fit_iff (n : Nat) :
    monoHeader ((44 + 22050 * n - 8) % 2 ^ 32) ((44 + 22050 * n - 44) % 2 ^ 32) =
      monoHeader (44 + 22050 * n - 8) (44 + 22050 * n - 44) ↔ n ≤ 194783 := by
  simp only [monoHeader, WavHeader.mk.injEq, true_and]
  omega

theorem Track.drop_toWav {tr : Track} {faults : WavFaults} {file : Bytes}
    (h : tr.toWav faults = (file, none)) : file.drop 44 = tr.data := by
  rw [toWav_eq_wavBytes h]
  exact drop_wavBytes _ _ _

theorem Track.holdsTrack_toWav {tr : Track} {faults : WavFaults} {file : Bytes}
    (hrange : ∀ x ∈ tr.samples, -32767 ≤ x ∧ x ≤ 32767) (h : tr.toWav faults = (file, none)) :
    HoldsTrack file tr := by
  have hfile := toWav_eq_wavBytes h
  have hlength : file.length = 44 + 22050 * tr.size := by
    rw [hfile, length_wavBytes, length_data, headerLength]
  have hheader : readHeader? file =
      some (monoHeader ((file.length - 8) % 2 ^ 32) ((file.length - 44) % 2 ^ 32)) := by
    rw [hlength, hfile, readHeader?_wavBytes, length_data, headerLength, Nat.add_sub_cancel_left]
  refine ⟨hlength, hheader, ?_, ?_⟩
  · rw [hheader, hlength, Option.some.injEq, sizes_fit_iff]
  · rw [drop_toWav h, data_eq_flatMap_samples, readSamples_flatMap_of_range hrange]

/-- **The file of a track.** A track can be written, and a file to which it was written without an
error reads back as the track: the header gives the format and the sizes, the samples are those
of the tones in order, each the fading sine of its tone, and a longer track has the same data
first. -/
theorem wav_round_trip (tr : Track) (hrange : ∀ x ∈ tr.samples, -32767 ≤ x ∧ x ≤ 32767) :
    (tr.toWav {}).2 = none ∧
    ∀ faults file, tr.toWav faults = (file, none) →
      HoldsTrack file tr ∧ tr.samples.length = 11025 * tr.size ∧
      (∀ i j, j < 11025 → tr.samples[11025 * i + j]? = tr.tones[i]?.map (·.sample j)) ∧
      (∀ (tone : Tone) j, tone.sample j = sampleOf tone.freq tone.gain j) ∧
      ∀ (tr' : Track) faults' file', tr.tones.toList <+: tr'.tones.toList →
        tr'.toWav faults' = (file', none) → file.drop 44 <+: file'.drop 44 := by
  refine ⟨tr.snd_toWav_no_faults, fun faults file h => ?_⟩
  refine ⟨tr.holdsTrack_toWav hrange h, tr.length_samples, fun i j hj => ?_, Tone.sample_eq, ?_⟩
  · exact tr.getElem?_samples i hj
  · intro tr' faults' file' hbegins h'
    rw [Track.drop_toWav h, Track.drop_toWav h']
    exact Track.data_isPrefix hbegins

theorem wav_round_trip_rests :
    (∀ x ∈ rests.samples, -32767 ≤ x ∧ x ≤ 32767) ∧
    ∃ file, rests.toWav {} = (file, none) ∧ file.length = 44144 ∧
      readHeader? file = some (monoHeader 44136 44100) ∧
      readSamples (file.drop 44) = List.replicate 22050 0 := by
  have hrange : ∀ x ∈ rests.samples, -32767 ≤ x ∧ x ≤ 32767 := by
    intro x hx
    rw [samples_rests] at hx
    rw [List.eq_of_mem_replicate hx]
    decide
  obtain ⟨hnone, hfiles⟩ := wav_round_trip rests hrange
  have hfile : rests.toWav {} = ((rests.toWav {}).1, none) := by rw [← hnone]
  obtain ⟨hholds, -⟩ := hfiles {} _ hfile
  have hlength : (rests.toWav {}).1.length = 44144 := hholds.length
  refine ⟨hrange, _, hfile, hlength, ?_, ?_⟩
  · rw [hholds.sizes.mpr (by decide), hlength]
  · rw [hholds.samples, samples_rests]

end TapeDeck
