import TapeDeck.Sound.Track
import TapeDeck.Text.Numeral
import Mathlib.Data.List.DropRight
import Mathlib.Data.Nat.Periodic

/-!
# A track is what was cued since its reset

A track keeps two things, its tones and the gain of the next one, and nothing ties the second to the
first but that both start together and move together. `InStep` is this tie: a tone for each command,
and the gain that so many rises lead to. A cue that is accepted keeps it (`InStep.cue`), and what is
refused changes nothing. So the tone of a command depends on the command and on its number, and not
on what was refused or dropped before.

The notes are written out once more in `noteTable`, byte by byte, and `octaveOf?` reads the octave
off the name of a note; `lookup_noteTable` and `octaveOf?_note` say that the tones go by them.
`gainAt` is the gain of a tone by its number alone. Ten tones are one climb: within it each tone is
a tenth louder than the one before (`gainAt_climbs`), no tone is louder than 1 (`gainAt_bounds`),
and the eleventh begins a new climb with the first gain (`gainAt_restarts`). The gains are sums of
doubles, so these are facts about rounded numbers, and the last gain of a climb is not quite 1.

**`track_determined_by_commands`** says this for every sequence of cues, resets and readings.
-/

namespace TapeDeck

/-! ## Notes -/

/-- The bytes that sound, each with its note. -/
def noteTable : List (UInt8 × String) :=
  [(0x3E, "C2"), (0x3C, "C3"), (0x2B, "C4"), (0x2D, "C5"), (0x2E, "C6"), (0x5B, "C7"),
   (0x5D, "C8")]

/-- The octave that the name of a note gives behind its letter. -/
def octaveOf? (note : String) : Option Nat :=
  note.toList[1]?.bind Text.digitValue?

theorem octaveOf?_note (c : Command) : octaveOf? c.note = some c.octave := by
  cases c <;> decide

/-- **The notes are those of the table**, and no other byte has one. -/
theorem lookup_noteTable (b : UInt8) : noteTable.lookup b = note? b := by
  cases hb : Command.ofByte? b with
  | some c =>
    obtain rfl := Command.ofByte?_eq_some_iff.mp hb
    cases c <;> decide
  | none =>
    have hkeys : ∀ p ∈ noteTable, Command.ofByte? p.1 ≠ none := by decide
    rw [note?, hb, Option.map_none, List.lookup_eq_none_iff]
    intro p hp
    have hne : b ≠ p.1 := fun h => hkeys p hp (h ▸ hb)
    simpa using hne

/-! ## Gains -/

/-- The gain of tone `i`: a tenth for the first one, and a tenth more than before for every further
one, but a tenth again where that would pass 1. -/
def gainAt : Nat → Float
  | 0 => 0.1
  | i + 1 => if gainAt i + 0.1 > 1 then 0.1 else gainAt i + 0.1

theorem nextGain_gainAt (i : Nat) : nextGain (gainAt i) = gainAt (i + 1) := rfl

/-- **Ten tones are one climb.** -/
theorem periodic_gainAt : Function.Periodic gainAt 10 := by
  intro i
  induction i with
  | zero => decide +kernel
  | succ i ih =>
    have hsucc : gainAt (i + 1 + 10) = nextGain (gainAt (i + 10)) := rfl
    rw [hsucc, ih, nextGain_gainAt]

theorem gainAt_mod (i : Nat) : gainAt (i % 10) = gainAt i :=
  periodic_gainAt.map_mod_nat i

theorem gainAt_mod_succ (i : Nat) : gainAt (i % 10 + 1) = gainAt (i + 1) := by
  rw [← nextGain_gainAt, ← nextGain_gainAt, gainAt_mod]

theorem gainAt_bounds (i : Nat) : 0.1 ≤ gainAt i ∧ gainAt i ≤ 1 := by
  have hclimb : ∀ k < 10, 0.1 ≤ gainAt k ∧ gainAt k ≤ 1 := by decide +kernel
  rw [← gainAt_mod]
  exact hclimb (i % 10) (Nat.mod_lt i (by decide))

/-- Within a climb a tone is a tenth louder than the one before. -/
theorem gainAt_climbs {i : Nat} (h : i % 10 < 9) :
    gainAt (i + 1) = gainAt i + 0.1 ∧ gainAt i < gainAt (i + 1) := by
  have hclimb : ∀ k < 9, gainAt (k + 1) = gainAt k + 0.1 ∧ gainAt k < gainAt (k + 1) := by
    decide +kernel
  have hi := hclimb (i % 10) h
  rwa [gainAt_mod_succ, gainAt_mod] at hi

/-- After a climb comes the first gain. -/
theorem gainAt_restarts {i : Nat} (h : i % 10 = 9) : gainAt (i + 1) = 0.1 := by
  rw [← gainAt_mod_succ, h]
  decide +kernel

example : (List.range 11).map gainAt =
    [0.1, 0.2, 0.30000000000000004, 0.4, 0.5, 0.6, 0.7, 0.7999999999999999, 0.8999999999999999,
     0.9999999999999999, 0.1] := by decide +kernel

/-! ## Tones -/

/-- The tone is that of the byte `b` when it is the tone with number `i` of a track: the byte, its
note, the frequency of that note, and the gain of tone `i`. A semitone is the twelfth part of an
octave, and the C of octave 4 is nine of them below the A of 440 Hz. -/
structure Tone.Sounds (tone : Tone) (b : UInt8) (i : Nat) : Prop where
  command : tone.command = b
  note : noteTable.lookup b = some tone.note
  freq : ∃ k, octaveOf? tone.note = some k ∧
    tone.freq = 440 * Float.pow 2 (((Int64.ofNat k - 4) * 12 - 9).toFloat / 12)
  gain : tone.gain = gainAt i

theorem Command.sounds_tone {c : Command} {b : UInt8} (h : ofByte? b = some c) (i : Nat) :
    (c.tone (gainAt i)).Sounds b i where
  command := (ofByte?_eq_some_iff.mp h).symm
  note := by rw [lookup_noteTable, note?, h]; rfl
  freq := ⟨c.octave, octaveOf?_note c, rfl⟩
  gain := rfl

/-! ## Cues -/

namespace Track

variable {tr : Track} {b : UInt8} {bs : Bytes}

theorem answer_of_refused (h : isCommand b = false) : tr.answer b = (.silent, false) := by
  rw [answer, toneOf?_eq_none h]

/-- An accepted cue answers the tone that it records. -/
theorem accepted_cue (tr : Track) (h : isCommand b = true) :
    ∃ c, Command.ofByte? b = some c ∧ tr.answer b = (c.tone tr.gain, true) ∧
      tr.cue b = ⟨tr.tones.push (c.tone tr.gain), nextGain tr.gain⟩ := by
  obtain ⟨c, hc⟩ := Option.isSome_iff_exists.mp h
  have htone : tr.toneOf? b = some (c.tone tr.gain) := by rw [toneOf?, hc]; rfl
  exact ⟨c, hc, by rw [answer, htone], by rw [cue, htone]⟩

theorem snd_answer (tr : Track) (b : UInt8) : (tr.answer b).2 = isCommand b := by
  cases h : isCommand b with
  | false => rw [answer_of_refused h]
  | true =>
    obtain ⟨c, -, hanswer, -⟩ := tr.accepted_cue h
    rw [hanswer]

/-- **The track is in step with its commands**: it has a tone for each, and its gain has risen once
for each. -/
structure InStep (tr : Track) (bs : Bytes) : Prop where
  size_eq : tr.size = bs.length
  gain_eq : tr.gain = gainAt bs.length
  sounds : ∀ i b, bs[i]? = some b → ∃ tone : Tone, tr.tones[i]? = some tone ∧ tone.Sounds b i

theorem InStep.empty : InStep empty [] where
  size_eq := rfl
  gain_eq := rfl
  sounds _ _ h := absurd h nofun

/-- A cue that is accepted keeps the track in step. -/
theorem InStep.cue (h : tr.InStep bs) (hb : isCommand b = true) :
    (tr.cue b).InStep (bs ++ [b]) := by
  obtain ⟨c, hc, -, hcue⟩ := tr.accepted_cue hb
  have hsize : tr.tones.size = bs.length := h.size_eq
  rw [hcue]
  refine ⟨?_, ?_, fun i b' hb' => ?_⟩
  · simp [size, hsize]
  · show nextGain tr.gain = _
    rw [h.gain_eq, nextGain_gainAt, List.length_append, List.length_singleton]
  · obtain hi | hi := Nat.lt_or_ge i bs.length
    · -- the tones before stay where they are
      rw [List.getElem?_append_left hi] at hb'
      obtain ⟨tone, htone, hsounds⟩ := h.sounds i b' hb'
      refine ⟨tone, ?_, hsounds⟩
      rw [Array.getElem?_push, if_neg (by omega), htone]
    · obtain rfl : i = bs.length := by
        have := (List.getElem?_eq_some_iff.mp hb').1
        rw [List.length_append, List.length_singleton] at this
        omega
      obtain rfl : b = b' := by simpa using hb'
      refine ⟨c.tone tr.gain, ?_, ?_⟩
      · rw [Array.getElem?_push, if_pos hsize.symm]
      · rw [h.gain_eq]
        exact Command.sounds_tone hc bs.length

theorem inStep_cueAll (h : ∀ b ∈ bs, isCommand b = true) : (empty.cueAll bs).InStep bs := by
  induction bs using List.reverseRecOn with
  | nil => exact .empty
  | append_singleton bs b ih =>
    rw [cueAll_append]
    have hbs := ih fun b' hb' => h b' (List.mem_append_left [b] hb')
    exact hbs.cue (h b (List.mem_append_right bs List.mem_cons_self))

end Track

/-! ## Cues, resets and readings -/

/-- What can be done with a track. -/
inductive TrackOp where
  | cue (b : UInt8)
  | reset
  | tones
  deriving DecidableEq, Repr

/-- The byte that is cued, if one is. -/
def TrackOp.cued? : TrackOp → Option UInt8
  | cue b => some b
  | reset | tones => none

/-- The commands that were cued after the last reset. -/
def commandsSinceReset (ops : List TrackOp) : Bytes :=
  ((ops.rtakeWhile (· != .reset)).filterMap TrackOp.cued?).filter isCommand

namespace Track

/-- Do one thing with a track. Reading its tones leaves it as it is. -/
def apply (tr : Track) : TrackOp → Track
  | .cue b => tr.cue b
  | .reset => tr.reset
  | .tones => tr

/-- Do one thing after another. -/
def run (tr : Track) (ops : List TrackOp) : Track :=
  ops.foldl apply tr

/-- **Only the bytes that were cued since the last reset matter.** -/
theorem run_empty_eq (ops : List TrackOp) :
    empty.run ops =
      empty.cueAll ((ops.rtakeWhile (· != .reset)).filterMap TrackOp.cued?) := by
  -- from the end, where the last reset is looked for
  induction ops using List.reverseRecOn with
  | nil => rfl
  | append_singleton ops op ih =>
    have hrun : empty.run (ops ++ [op]) = (empty.run ops).apply op := List.foldl_append
    rw [hrun, List.rtakeWhile_concat]
    cases op with
    | cue b =>
      have hkept : (TrackOp.cue b != .reset) = true := rfl
      rw [if_pos hkept, List.filterMap_append, cueAll_append, ← ih]
      rfl
    | reset => rfl
    | tones =>
      have hkept : (TrackOp.tones != .reset) = true := rfl
      rw [if_pos hkept, List.filterMap_append, cueAll_append, ← ih]
      rfl

/-- Without a reset no tone that is recorded goes or changes. -/
theorem tones_isPrefix_run {ops : List TrackOp} (h : .reset ∉ ops) (tr : Track) :
    tr.tones.toList <+: (tr.run ops).tones.toList := by
  induction ops generalizing tr with
  | nil => exact List.prefix_rfl
  | cons op ops ih =>
    obtain ⟨hop, hops⟩ := List.ne_and_not_mem_of_not_mem_cons h
    refine List.IsPrefix.trans ?_ (ih hops (tr.apply op))
    cases op with
    | cue b =>
      show tr.tones.toList <+: (tr.cue b).tones.toList
      rw [tones_cue]
      exact List.prefix_append _ _
    | reset => exact absurd rfl hop
    | tones => exact List.prefix_rfl

end Track

/-- **A track is determined by the commands that it accepted since its last reset**, whatever was
done with it before. A cue is accepted exactly if its byte is a command, and the commands are the
bytes of the table of notes. A refused cue answers the silent tone and changes nothing; an accepted
one answers the tone that it records. The track is a new one cued with just those commands: it has a
tone for each, with its byte, its note, the frequency of that note, and a gain that depends only on
the number of the tone. The gains climb by a tenth from 0.1 and never pass 1, and every tenth tone
is the last of a climb. What is recorded stays as it is until the next reset. -/
theorem track_determined_by_commands (ops : List TrackOp) :
    let tr := Track.empty.run ops
    let cs := commandsSinceReset ops
    (∀ b, (tr.answer b).2 = isCommand b ∧ (noteTable.lookup b).isSome = isCommand b) ∧
    (∀ b, isCommand b = false →
      tr.answer b = ({ command := 0, note := "", freq := 0, gain := 0 }, false) ∧
        tr.cue b = tr) ∧
    (∀ b, isCommand b = true → (tr.cue b).tones = tr.tones.push (tr.answer b).1) ∧
    tr = Track.empty.cueAll cs ∧ tr.size = cs.length ∧
    (∀ i b, cs[i]? = some b → ∃ tone : Tone, tr.tones[i]? = some tone ∧ tone.Sounds b i) ∧
    tr.gain = gainAt cs.length ∧
    (gainAt 0 = 0.1 ∧ ∀ i, (0.1 ≤ gainAt i ∧ gainAt i ≤ 1) ∧
      (i % 10 < 9 → gainAt (i + 1) = gainAt i + 0.1 ∧ gainAt i < gainAt (i + 1)) ∧
      (i % 10 = 9 → gainAt (i + 1) = 0.1)) ∧
    (∀ later, .reset ∉ later → tr.tones.toList <+: (tr.run later).tones.toList) := by
  intro tr cs
  have htrack : tr = Track.empty.cueAll cs :=
    (Track.run_empty_eq ops).trans (Track.cueAll_filter _ _).symm
  have hstep : tr.InStep cs := by
    rw [htrack]
    exact Track.inStep_cueAll fun b hb => List.of_mem_filter hb
  refine ⟨fun b => ⟨tr.snd_answer b, ?_⟩,
    fun b hb => ⟨Track.answer_of_refused hb, Track.cue_eq_self hb⟩, fun b hb => ?_, htrack,
    hstep.size_eq, hstep.sounds, hstep.gain_eq,
    ⟨rfl, fun i => ⟨gainAt_bounds i, gainAt_climbs, gainAt_restarts⟩⟩,
    fun later h => Track.tones_isPrefix_run h tr⟩
  · rw [lookup_noteTable, note?, Option.isSome_map]
    rfl
  · obtain ⟨c, -, hanswer, hcue⟩ := tr.accepted_cue hb
    rw [hanswer, hcue]

/-- A command before a reset leaves no trace, and a comment between two commands after it takes no
gain: the second tone is `[`, 27 semitones above the A in octave 4, with the second gain. -/
theorem track_determined_by_commands_reset :
    let ops : List TrackOp := [.cue 0x2B, .reset, .cue 0x2E, .tones, .cue 0x61, .cue 0x5B]
    let tr := Track.empty.run ops
    tr = Track.empty.cueAll [0x2E, 0x5B] ∧ tr.answer 0x61 = (⟨0, "", 0, 0⟩, false) ∧
      (∃ tone : Tone, tr.tones[1]? = some tone ∧ tone.Sounds 0x5B 1 ∧ tone.note = "C7" ∧
        tone.freq = 440 * Float.pow 2 ((27 : Int64).toFloat / 12) ∧ tone.gain = 0.2) ∧
      tr.gain = 0.30000000000000004 ∧
      tr.tones.toList <+: (tr.run [.cue 0x3E]).tones.toList := by
  intro ops tr
  obtain ⟨-, hrefused, -, htrack, -, hsounds, hgain, -, hkept⟩ := track_determined_by_commands ops
  obtain ⟨tone, htone, hsound⟩ := hsounds 1 0x5B (by decide)
  have hnote : tone.note = "C7" := Option.some.inj (hsound.note.symm.trans (by decide))
  have hfreq : tone.freq = 440 * Float.pow 2 ((27 : Int64).toFloat / 12) := by
    obtain ⟨k, hk, hfreq⟩ := hsound.freq
    rw [hnote] at hk
    obtain rfl : 7 = k := Option.some.inj hk
    exact hfreq
  refine ⟨htrack, (hrefused 0x61 (by decide)).1, ⟨tone, htone, hsound, hnote, hfreq, ?_⟩, ?_,
    hkept _ (by decide)⟩
  · rw [hsound.gain]
    decide +kernel
  · rw [hgain]
    decide +kernel

end TapeDeck
