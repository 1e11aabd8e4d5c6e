import TapeDeck.Sound.Tone

/-!
# Tracks

A track collects one tone for each command it is cued with. The gain climbs by a tenth with every
tone and starts over once it has passed 1; it is summed up step by step, so it carries the rounding
of every sum.

Cueing a byte that is no command changes nothing (`cue_eq_self`, `cueAll_filter`), and a later cue
leaves the tones recorded so far as they are (`tones_cue`).
-/

namespace TapeDeck

/-- The first gain, and what each tone adds to it. -/
def gainRise : Float := 0.1

/-- The gain after one more tone. -/
def nextGain (gain : Float) : Float :=
  let sum := gain + gainRise
  if sum > 1 then gainRise else sum

/-- The tones so far, and the gain of the next one. -/
@[ext]
structure Track where
  tones : Array Tone
  gain : Float

namespace Track

/-- The track without tones. -/
def empty : Track := ⟨#[], gainRise⟩

/-- The tone that a byte would sound next; only commands sound. -/
def toneOf? (tr : Track) (b : UInt8) : Option Tone :=
  (Command.ofByte? b).map fun c => c.tone tr.gain

/-- What a cue answers: the tone that it records, and whether it records one. -/
def answer (tr : Track) (b : UInt8) : Tone × Bool :=
  match tr.toneOf? b with
  | some tone => (tone, true)
  | none => (.silent, false)

/-- Record the tone of a byte, if it has one. -/
def cue (tr : Track) (b : UInt8) : Track :=
  match tr.toneOf? b with
  | some tone => ⟨tr.tones.push tone, nextGain tr.gain⟩
  | none => tr

/-- Record the tones of bytes in order. -/
def cueAll (tr : Track) (bs : Bytes) : Track :=
  bs.foldl cue tr

/-- Drop every tone and start the gain over. -/
def reset (_ : Track) : Track := ⟨#[], gainRise⟩

/-- The number of tones. -/
def size (tr : Track) : Nat := tr.tones.size

theorem isSome_toneOf? (tr : Track) (b : UInt8) : (tr.toneOf? b).isSome = isCommand b := by
  simp [toneOf?, isCommand]

theorem toneOf?_eq_none {tr : Track} {b : UInt8} (h : isCommand b = false) :
    tr.toneOf? b = none := by
  rw [← isSome_toneOf? tr b] at h
  simpa using h

theorem cue_eq_self {tr : Track} {b : UInt8} (h : isCommand b = false) : tr.cue b = tr := by
  rw [cue, toneOf?_eq_none h]

theorem cueAll_append (tr : Track) (xs ys : Bytes) :
    tr.cueAll (xs ++ ys) = (tr.cueAll xs).cueAll ys :=
  List.foldl_append

/-- Bytes that are no commands leave no tone on a track. -/
theorem cueAll_filter (tr : Track) (bs : Bytes) :
    tr.cueAll (bs.filter isCommand) = tr.cueAll bs := by
  induction bs generalizing tr with
  | nil => rfl
  | cons b bs ih =>
    cases hb : isCommand b with
    | true =>
      rw [List.filter_cons_of_pos hb]
      exact ih (tr.cue b)
    | false =>
      have hcue : tr.cueAll (b :: bs) = (tr.cue b).cueAll bs := rfl
      rw [List.filter_cons_of_neg (ne_true_of_eq_false hb), hcue, cue_eq_self hb]
      exact ih tr

theorem tones_cue (tr : Track) (b : UInt8) :
    (tr.cue b).tones.toList = tr.tones.toList ++ (tr.toneOf? b).toList := by
  unfold cue
  split <;> simp_all

end Track

end TapeDeck
