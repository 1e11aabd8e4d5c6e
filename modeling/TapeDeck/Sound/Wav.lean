import TapeDeck.Sound.Track

/-!
# WAV files

A track is rendered as mono samples of 16 bits and written as a WAV file. The writer does not know
the sizes before it has written the samples, so it writes placeholders first and goes back to
patch them. Everything it does to the file is a list of calls (`Track.calls`), each a write of one
field or a seek; `perform` makes them one after another on a file that may refuse any of them.

The first call that is refused ends the writing, and the file keeps what was written before it.
-/

namespace TapeDeck

/-! ## Samples -/

/-- Samples per second. -/
def sampleRate : Nat := 44100

/-- Bits per sample. -/
def bitDepth : Nat := 16

/-- Samples of one tone, a quarter of a second. -/
def samplesPerTone : Nat := 11025

/-- The double nearest a full turn. -/
def fullTurn : Float := 6.283185307179586

/-- The greatest sample. -/
def peak : Float := 32767

/-- The whole part of a number, with its sign. What is no number counts as 0. -/
def wholePart (x : Float) : Int :=
  if x < 0 then -((-x).toUInt64.toNat : Int) else x.toUInt64.toNat

/-- Sample `i` of a tone: a sine under an envelope that falls to nothing at the end of the tone, so
that tones in a row do not click. -/
def Tone.sample (tone : Tone) (i : Nat) : Int :=
  let time := Float.ofNat i / Float.ofNat sampleRate
  let envelope := 1 - Float.ofNat i / Float.ofNat samplesPerTone
  let v := Float.sin (fullTurn * tone.freq * time) * tone.gain * envelope
  wholePart (v * peak)

/-- The samples of a tone. -/
def Tone.samples (tone : Tone) : List Int :=
  (List.range samplesPerTone).map tone.sample

/-- The samples of a track. -/
def Track.samples (tr : Track) : List Int :=
  tr.tones.toList.flatMap Tone.samples

theorem Tone.length_samples (tone : Tone) : tone.samples.length = samplesPerTone := by
  simp [Tone.samples]

theorem Track.length_samples (tr : Track) : tr.samples.length = samplesPerTone * tr.size := by
  simp [Track.samples, Track.size, List.length_flatMap, Tone.length_samples, List.map_const',
    Nat.mul_comm]

/-! ## Numbers in a file -/

/-- The lowest `width` bytes of a number, least significant first. -/
def littleEndian : Nat → Nat → Bytes
  | 0, _ => []
  | width + 1, n => n.toUInt8 :: littleEndian width (n / 256)

/-- A signed number in 16 bits, least significant byte first. -/
def sampleBytes (x : Int) : Bytes :=
  littleEndian 2 (x % 65536).toNat

/-- The sample data of a tone. -/
def Tone.data (tone : Tone) : Bytes :=
  tone.samples.flatMap sampleBytes

/-- The sample data of a track. -/
def Track.data (tr : Track) : Bytes :=
  tr.tones.toList.flatMap Tone.data

theorem Track.data_eq_flatMap_samples (tr : Track) : tr.data = tr.samples.flatMap sampleBytes := by
  simp only [Track.data, Track.samples, List.flatMap_assoc]
  rfl

theorem length_littleEndian (width n : Nat) : (littleEndian width n).length = width := by
  induction width generalizing n with
  | zero => rfl
  | succ w ih => simp [littleEndian, ih]

theorem length_sampleBytes (x : Int) : (sampleBytes x).length = 2 :=
  length_littleEndian 2 _

/-! ## Calls -/

/-- The parts of the file, in the order in which they are written. -/
inductive WavField where
  | riffTag
  | riffSizePlace
  | waveTag
  | formatTag
  | formatSize
  | formatKind
  | channels
  | rate
  | byteRate
  | blockAlign
  | depth
  | dataTag
  | dataSizePlace
  | samples
  | riffSize
  | dataSize
  deriving DecidableEq, Repr

/-- Where a seek goes. -/
inductive WavTarget where
  | offset (n : Nat)
  | endOfFile
  deriving DecidableEq, Repr

/-- One call on the file. -/
inductive WavCall where
  | write (field : WavField) (data : Bytes)
  | seek (target : WavTarget)
  deriving DecidableEq, Repr

/-- What is written for a size that is not known yet. -/
def sizePlaceholder : Nat := 42

/-- The length of everything before the samples. -/
def headerLength : Nat := 44

/-- The calls up to the samples. -/
def headerCalls : List WavCall :=
  [.write .riffTag (Bytes.ofString "RIFF"),
   .write .riffSizePlace (littleEndian 4 sizePlaceholder),
   .write .waveTag (Bytes.ofString "WAVE"),
   .write .formatTag (Bytes.ofString "fmt "),
   .write .formatSize (littleEndian 4 16),
   .write .formatKind (littleEndian 2 1),
   .write .channels (littleEndian 2 1),
   .write .rate (littleEndian 4 sampleRate),
   .write .byteRate (littleEndian 4 (sampleRate * bitDepth / 8)),
   .write .blockAlign (littleEndian 2 (bitDepth / 8)),
   .write .depth (littleEndian 2 bitDepth),
   .write .dataTag (Bytes.ofString "data"),
   .write .dataSizePlace (littleEndian 4 sizePlaceholder)]

/-- The calls that put in the sizes, for `n` bytes of samples. A size is kept to 32 bits. -/
def sizeCalls (n : Nat) : List WavCall :=
  [.seek (.offset 4),
   .write .riffSize (littleEndian 4 (headerLength + n - 8)),
   .seek (.offset 40),
   .write .dataSize (littleEndian 4 n),
   .seek .endOfFile]

/-- The calls that write a file with the given sample data. -/
def wavCalls (data : Bytes) : List WavCall :=
  headerCalls ++ .write .samples data :: sizeCalls data.length

/-- The calls that write a track. -/
def Track.calls (tr : Track) : List WavCall :=
  wavCalls tr.data

/-! ## Writing -/

/-- A call that was refused, and why. -/
inductive WavError where
  | write (field : WavField) (why : String)
  | seek (why : String)
  deriving DecidableEq, Repr

/-- The wording of a field that could not be written. -/
def WavField.failure (why : String) : WavField → String
  | channels => "error encoding the number of channels - " ++ why
  | rate => "error encoding the sample rate - " ++ why
  | byteRate => "error encoding the avg bytes per sec - " ++ why
  | depth => "error encoding bits per sample - " ++ why
  | dataTag => "error encoding sound header " ++ why
  | dataSizePlace => why ++ " when writing wav data chunk size header"
  | riffSize => why ++ " when writing the total written bytes"
  | dataSize => why ++ " when writing wav data chunk size header"
  | _ => why

/-- The wording of a file that could not be written. -/
def WavError.message : WavError → String
  | write field why => "wav: " ++ field.failure why
  | seek why => "wav: " ++ why

/-- A file that is being written. -/
structure WavFile where
  bytes : Bytes := []
  /-- Where the next write goes. -/
  position : Nat := 0
  deriving DecidableEq, Repr

namespace WavFile

/-- Data before what follows it. At the end of a file nothing follows, and the data is taken as it
is. -/
def splice (data : Bytes) : Bytes → Bytes
  | [] => data
  | rest => data ++ rest

theorem splice_eq (data rest : Bytes) : splice data rest = data ++ rest := by
  cases rest with
  | nil => simp [splice]
  | cons => rfl

/-- Write over what is there, and on past the end. -/
def write (f : WavFile) (data : Bytes) : WavFile where
  bytes := f.bytes.take f.position ++ splice data (f.bytes.drop (f.position + data.length))
  position := f.position + data.length

/-- Go to another position. -/
def seek (f : WavFile) : WavTarget → WavFile
  | .offset n => { f with position := n }
  | .endOfFile => { f with position := f.bytes.length }

/-- The file after a call. -/
def apply (f : WavFile) : WavCall → WavFile
  | .write _ data => f.write data
  | .seek target => f.seek target

end WavFile

/-- Which writes and which seeks a file refuses, counted from one, and why. -/
structure WavFaults where
  write : Nat → Option String := fun _ => none
  seek : Nat → Option String := fun _ => none

/-- Why a call is refused, when `writes` writes and `seeks` seeks were made before it. -/
def WavFaults.refusal (faults : WavFaults) (writes seeks : Nat) : WavCall → Option WavError
  | .write field _ => (faults.write (writes + 1)).map (.write field)
  | .seek _ => (faults.seek (seeks + 1)).map .seek

/-- Make calls until one is refused. -/
def performFrom (faults : WavFaults) :
    List WavCall → Nat → Nat → WavFile → WavFile × Option WavError
  | [], _, _, f => (f, none)
  | call :: rest, writes, seeks, f =>
    match faults.refusal writes seeks call with
    | some e => (f, some e)
    | none =>
      match call with
      | .write _ _ => performFrom faults rest (writes + 1) seeks (f.apply call)
      | .seek _ => performFrom faults rest writes (seeks + 1) (f.apply call)

/-- Make calls on an empty file until one is refused. -/
def perform (faults : WavFaults) (calls : List WavCall) : WavFile × Option WavError :=
  performFrom faults calls 0 0 {}

/-- Write a track: the bytes in the file, and the error, if a call was refused. -/
def Track.toWav (tr : Track) (faults : WavFaults) : Bytes × Option WavError :=
  let (file, error) := perform faults tr.calls
  (file.bytes, error)

end TapeDeck
