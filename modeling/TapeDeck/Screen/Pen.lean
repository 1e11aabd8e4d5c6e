import TapeDeck.Screen.Terminal

/-!
# Pens

A pen is how a terminal writes: weight, slant, underline, colours, and the link that a text belongs
to. Escape sequences change it. A line that ends with a changed pen is closed with the plain pen and
the next one opened with the sequence of the changed one, so that lines can stand beside others.
-/

namespace TapeDeck

/-- A colour: one of the sixteen basic ones, one of 256, or any. -/
inductive Colour where
  | basic (n : Nat)
  | indexed (n : Nat)
  | mixed (red green blue : Nat)
  deriving DecidableEq, Repr

/-- The kinds of underlines. -/
inductive Underline where
  | single
  | double
  | curly
  | dotted
  | dashed
  deriving DecidableEq, Repr

/-- How a terminal writes. -/
structure Pen where
  bold : Bool := false
  faint : Bool := false
  italic : Bool := false
  slowBlink : Bool := false
  rapidBlink : Bool := false
  reversed : Bool := false
  concealed : Bool := false
  struck : Bool := false
  underline : Option Underline := none
  foreground : Option Colour := none
  background : Option Colour := none
  underlineColour : Option Colour := none
  deriving DecidableEq, Repr

/-- The link that a text belongs to. -/
structure Link where
  target : Bytes := []
  values : Bytes := []
  deriving DecidableEq, Repr

/-! ## Values of a sequence -/

/-- A value of a sequence, and whether a colon ties the next one to it. -/
structure PenValue where
  value : Nat
  tied : Bool
  deriving DecidableEq, Repr

namespace PenValue

/-- A number that is not given. -/
def missing : Nat := 0x7FFFFFFF

/-- The value that a number stands for. It has 31 bits; one that is not given is zero. -/
def ofNumber (n : Nat) (colon : Bool) : PenValue :=
  let value := n % (missing + 1)
  ⟨if value = missing then 0 else value, colon || n > missing⟩

/-- Add a digit to a number of 64 bits; it starts anew from one that is not given. -/
def addDigit (n : Nat) (b : UInt8) : Nat :=
  ((if n = missing then 0 else n) * 10 + (b.toNat - 0x30)) % 0x10000000000000000

/-- The values that a text of digits, semicolons and colons lists. -/
def list : Bytes → Nat → List PenValue
  | [], n => [ofNumber n false]
  | b :: rest, n =>
    if b = 0x3B then ofNumber n false :: list rest missing
    else if b = 0x3A then ofNumber n true :: list rest missing
    else list rest (addDigit n b)

/-- How many values a terminal keeps. -/
def most : Nat := 32

/-- The values of a text; an empty text has none. Where there are as many as a terminal keeps, or
more, the last one is lost. -/
def ofText (text : Bytes) : List PenValue :=
  let values := if text.isEmpty then [] else list text missing
  if values.length < most then values else values.dropLast

end PenValue

/-! ## Colours -/

/-- The red, green or blue of a colour given by what is taken away from white; sixteen bits are cut
to eight. -/
def Colour.remaining (ink black : Nat) : Nat :=
  let n := (0xFFFF - ink % 256 * 0x101) * (0xFFFF - black % 256 * 0x101) / 0xFFFF
  if n > 0xFF then n / 256 else n

/-- Where the parts of a colour are, and how many values it takes up, from the kind on. Parts tied
by colons may have a colour space before them, and more after them. -/
def colourParts (vs : List PenValue) : Option (List Nat × Nat) :=
  let tied (k : Nat) : Bool := (vs[k]?.map PenValue.tied).getD false
  let part (k : Nat) : Nat := (vs[k]?.map PenValue.value).getD 0
  let allTied (k : Nat) : Bool := (List.range k).all tied
  let kind := part 1
  if vs.length > 8 && allTied 8 then some ([part 3, part 4, part 5, part 6], 9)
  else if vs.length > 7 && allTied 7 then some ([part 3, part 4, part 5, part 6], 8)
  else if vs.length > 6 && allTied 6 then some ([part 3, part 4, part 5, part 6], 7)
  else if vs.length > 5 && allTied 5 && !tied 5 then some ([part 3, part 4, part 5], 6)
  else if kind = 2 && allTied 4 && !tied 4 then some ([part 2, part 3, part 4], 5)
  else if kind = 2 && !((List.range 5).any tied) then some ([part 2, part 3, part 4], 5)
  else none

/-- A colour from the value that announces it on, and how many values it takes up. A kind that
leaves the colour open gives none. -/
def readColour (vs : List PenValue) : Option (Option Colour × Nat) :=
  match vs with
  | announced :: kind :: rest =>
    match kind.value with
    | 0 => some (none, 2)
    | 1 => some (some (.mixed 0 0 0), 2)
    | 2 =>
      if vs.length < 5 then none
      else
        match colourParts vs with
        | some (r :: g :: b :: _, n) => some (some (.mixed (r % 256) (g % 256) (b % 256)), n)
        | _ => none
    | 3 =>
      if vs.length < 5 then none
      else
        match colourParts vs with
        | some (c :: m :: y :: _, n) =>
          some (some (.mixed (Colour.remaining c 0) (Colour.remaining m 0)
            (Colour.remaining y 0)), n)
        | _ => none
    | 4 =>
      if vs.length < 6 then none
      else
        match colourParts vs with
        | some ([c, m, y, k], n) =>
          some (some (.mixed (Colour.remaining c k) (Colour.remaining m k)
            (Colour.remaining y k)), n)
        | _ => none
    | 5 =>
      match rest with
      | index :: _ =>
        if announced.tied = kind.tied && !index.tied then
          some (some (.indexed (index.value % 256)), 3)
        else none
      | [] => none
    | 6 =>
      if vs.length < 6 then none
      else
        match colourParts vs with
        | some ([r, g, b, _], n) => some (some (.mixed (r % 256) (g % 256) (b % 256)), n)
        | _ => none
    | _ => none
  | _ => none

/-! ## Reading pens -/

namespace Pen

/-- The underline of a number that is tied to the one for underlines. -/
def underlineOf : Nat → Option (Option Underline)
  | 0 => some none
  | 1 => some (some .single)
  | 2 => some (some .double)
  | 3 => some (some .curly)
  | 4 => some (some .dotted)
  | 5 => some (some .dashed)
  | _ => none

/-- The pen after a value that stands for itself. -/
def apply (p : Pen) (n : Nat) : Pen :=
  match n with
  | 0 => {}
  | 1 => { p with bold := true }
  | 2 => { p with faint := true }
  | 3 => { p with italic := true }
  | 5 => { p with slowBlink := true }
  | 6 => { p with rapidBlink := true }
  | 7 => { p with reversed := true }
  | 8 => { p with concealed := true }
  | 9 => { p with struck := true }
  | 22 => { p with bold := false, faint := false }
  | 23 => { p with italic := false }
  | 24 => { p with underline := none }
  | 25 => { p with slowBlink := false, rapidBlink := false }
  | 27 => { p with reversed := false }
  | 28 => { p with concealed := false }
  | 29 => { p with struck := false }
  | 39 => { p with foreground := none }
  | 49 => { p with background := none }
  | 59 => { p with underlineColour := none }
  | _ =>
    if 30 ≤ n ∧ n ≤ 37 then { p with foreground := some (.basic (n - 30)) }
    else if 40 ≤ n ∧ n ≤ 47 then { p with background := some (.basic (n - 40)) }
    else if 90 ≤ n ∧ n ≤ 97 then { p with foreground := some (.basic (n - 90 + 8)) }
    else if 100 ≤ n ∧ n ≤ 107 then { p with background := some (.basic (n - 100 + 8)) }
    else p

/-- The pen after a colour that a value announces. -/
def setColour (p : Pen) (announced : Nat) (c : Option Colour) : Pen :=
  match announced with
  | 38 => { p with foreground := c }
  | 48 => { p with background := c }
  | _ => { p with underlineColour := c }

/-- The pen after some values. The second argument counts the values that are already used. -/
def readFrom (p : Pen) : Nat → List PenValue → Pen
  | _, [] => p
  | used + 1, _ :: rest => readFrom p used rest
  | 0, v :: rest =>
    if v.value = 38 ∨ v.value = 48 ∨ v.value = 58 then
      match readColour (v :: rest) with
      | some (c, n) => readFrom (p.setColour v.value c) (n - 1) rest
      | none => readFrom p 0 rest
    else if v.value = 4 then
      match (if v.tied then rest else []) with
      | next :: _ =>
        match underlineOf next.value with
        | some underline => readFrom { p with underline } 1 rest
        | none => readFrom p 0 rest
      | [] => readFrom { p with underline := some .single } 0 rest
    else readFrom (p.apply v.value) 0 rest

/-- The pen after a sequence with some values; one without any puts the plain pen back. -/
def read (p : Pen) (vs : List PenValue) : Pen :=
  if vs.isEmpty then {} else p.readFrom 0 vs

/-! ## Writing pens -/

/-- The values that set a colour: `base` is the first of the basic ones, `bright` the first of the
bright ones, and `other` announces any other. -/
def colourText (base bright other : Nat) : Colour → String
  | .basic n => toString (if n < 8 then base + n else bright + (n - 8))
  | .indexed n => toString other ++ ";5;" ++ toString n
  | .mixed r g b =>
    toString other ++ ";2;" ++ toString r ++ ";" ++ toString g ++ ";" ++ toString b

/-- The values that set the colour of an underline, which has no basic ones. -/
def underlineColourText : Colour → String
  | .basic n => "58;5;" ++ toString n
  | c => colourText 0 0 58 c

/-- The value that sets an underline. -/
def underlineText : Underline → String
  | .single => "4"
  | .double => "4:2"
  | .curly => "4:3"
  | .dotted => "4:4"
  | .dashed => "4:5"

/-- The sequence that makes the plain pen this one. -/
def sequence (p : Pen) : Bytes :=
  let flag (on : Bool) (value : String) : List String := if on then [value] else []
  let values :=
    flag p.bold "1" ++ flag p.faint "2" ++ flag p.italic "3" ++ flag p.slowBlink "5" ++
    flag p.rapidBlink "6" ++ flag p.reversed "7" ++ flag p.concealed "8" ++ flag p.struck "9" ++
    (p.underline.map underlineText).toList ++
    (p.foreground.map (colourText 30 90 38)).toList ++
    (p.background.map (colourText 40 100 48)).toList ++
    (p.underlineColour.map underlineColourText).toList
  Bytes.ofString ("\x1b[" ++ ";".intercalate values ++ "m")

/-- The sequence that puts the plain pen back. -/
def reset : Bytes := Bytes.ofString "\x1b[m"

end Pen

/-! ## Links -/

namespace Link

/-- Fields between semicolons. -/
def fields : Bytes → List Bytes
  | [] => [[]]
  | b :: rest =>
    if b = 0x3B then [] :: fields rest
    else
      match fields rest with
      | field :: more => (b :: field) :: more
      | [] => [[b]]

/-- The number at the front of a text. -/
def number (text : Bytes) : Nat :=
  (text.takeWhile fun b => 0x30 ≤ b && b ≤ 0x39).foldl PenValue.addDigit PenValue.missing

/-- The link that the text of a command sets: number eight with two more fields. -/
def ofCommand? (text : Bytes) : Option Link :=
  match number text, fields text with
  | 8, [_, values, target] => some ⟨target, values⟩
  | _, _ => none

/-- The sequence that starts a link; without a target it ends one. -/
def sequence (l : Link) : Bytes :=
  Bytes.ofString "\x1b]8;" ++ l.values ++ Bytes.ofString ";" ++ l.target ++ Bytes.ofString "\x07"

end Link

/-! ## What a piece does to pen and link -/

namespace Terminal

/-- A text without the front `intro` or the one byte `short`, whichever it has. -/
def afterIntro? (intro : Bytes) (short : UInt8) (text : Bytes) : Option Bytes :=
  if intro.isPrefixOf text then some (text.drop intro.length)
  else if text.head? = some short then some text.tail
  else none

/-- The values of a piece that sets the pen. -/
def Piece.penValues? (p : Piece) : Option (List PenValue) :=
  match afterIntro? [0x1B, 0x5B] 0x9B p.bytes with
  | some body =>
    let text := body.dropLast
    if body.getLast? = some 0x6D && text.all (fun b => 0x30 ≤ b && b ≤ 0x3B) then
      some (PenValue.ofText text)
    else none
  | none => none

/-- The text of a command, without the sign that ends it. -/
def Piece.commandText? (p : Piece) : Option Bytes :=
  (afterIntro? [0x1B, 0x5D] 0x9D p.bytes).map fun body =>
    if body.getLast? = some 0x07 || body.getLast? = some 0x9C then body.dropLast
    else if [0x5C, 0x1B].isPrefixOf body.reverse then body.dropLast.dropLast
    else body

end Terminal

end TapeDeck
