import BytecodeParity.Http.DomainTable
import BytecodeParity.Http.Punycode
import BytecodeParity.Text.Composition
import BytecodeParity.Text.Marks
import BytecodeParity.Text.Printable
/-!
# Domain names

The names of hosts, in any script. A name is read leniently: capitals and other forms of a
character count as the character itself, some characters do not count at all. Then it is split at
its dots into labels, each of which is written in ASCII. A label may also come in its written form,
if that is the form that it would be given.

What a name may hold is the same for both: known characters of names, no label that begins with a
mark, joiners only where they do something, and runs of letters of both directions only where their
order on display is certain.
-/

namespace BytecodeParity.Http.DomainName

/-! ## Characters -/

/-- Characters from `first` to `last`, taken at a step, that are read as others in the same
order. -/
structure Replacement where
  first : Nat
  last : Nat
  step : Nat
  target : Nat
  deriving Repr

/-- Whether a code point is among those replaced. -/
def Replacement.covers (r : Replacement) (n : Nat) : Bool :=
  r.first ≤ n && n ≤ r.last && (n - r.first) % r.step == 0

/-- The characters that are read as another one. -/
def replacements : Array Replacement :=
  ((Text.readTable replacementTable).filterMap fun e =>
    match e with
    | [c, target] => some ⟨c, c, 1, target⟩
    | [first, last, step, target] => some ⟨first, last, step, target⟩
    | _ => none).toArray

/-- The characters that are read as several. -/
def expansions : Array (Nat × List Nat) :=
  ((Text.readTable expansionTable).filterMap fun e =>
    match e with
    | c :: parts => some (c, parts)
    | [] => none).toArray

/-- Whether a character is one of ASCII. -/
def isAscii (c : Char) : Bool := c.toNat < 0x80

/-- The joiner that keeps letters apart. -/
def nonJoiner : Char := Char.ofNat 0x200C

/-- The joiner that ties letters. -/
def joiner : Char := Char.ofNat 0x200D

/-- Whether a character is a joiner. Joiners have no form of their own. -/
def isJoiner (c : Char) : Bool := c == nonJoiner || c == joiner

/-- What a character counts as. There is no answer for one that may not stand in a name. -/
def countsAs? (c : Char) : Option Text :=
  let n := c.toNat
  if isAscii c then some [c.toLower]
  else if isJoiner c then some [c]
  else if Text.inRanges ignoredRanges n then some []
  else
    match replacements.find? fun r => r.covers n with
    | some r => some [Char.ofNat (r.target + (n - r.first))]
    | none =>
      match expansions.find? fun e => e.1 == n with
      | some e => some (e.2.map Char.ofNat)
      | none => if Text.inRanges forbiddenRanges n || !Text.isPrintable c then none else some [c]

/-- What a text counts as, letters and their marks put together. -/
def countText? (t : Text) : Option Text := do
  some (Text.composed (← t.mapM countsAs?).flatten)

/-- The characters of ASCII that may not stand in a name. -/
def isDelimiter (c : Char) : Bool :=
  c.toNat ≤ 0x20 || c.toNat == 0x7F || c == '%' || c == '#' || c == '/' || c == ':' || c == '<' ||
    c == '>' || c == '?' || c == '@' || c == '[' || c == '\\' || c == ']' || c == '^' || c == '|'

/-! ## Labels -/

/-- A label of a name. -/
structure Label where
  letters : Text
  /-- The form in ASCII. -/
  written : Text
  deriving DecidableEq, Repr

/-- The letters of a label from what follows the mark of the written form. They have to be such that
they would be written this way: not in ASCII alone, and counting as themselves. -/
def decoded? (t : Text) : Option Text := do
  if t.length ≤ 2000 && t.all isAscii then
    let letters ← Punycode.read? t
    if !letters.all isAscii && !(['x', 'n', '-', '-'].isPrefixOf letters) &&
        letters.all (fun c => countsAs? c == some [c]) && Text.composed letters == letters then
      some letters
    else none
  else none

/-- Reads a label that counts as itself. -/
def Label.read? : Text → Option Label
  | 'x' :: 'n' :: '-' :: '-' :: t => do some ⟨← decoded? t, 'x' :: 'n' :: '-' :: '-' :: t⟩
  | t =>
    if t.all isAscii then some ⟨t, t⟩
    else if t.length ≤ 1000 then some ⟨t, 'x' :: 'n' :: '-' :: '-' :: Punycode.write t⟩
    else none

/-! ## Joiners -/

/-- Whether letters join across a character. -/
def isTransparent (c : Char) : Bool := Text.isNonspacingMark c || c.toNat == 0x1E94B

/-- Whether the letters on both sides of a place join. The text before it comes last character
first. -/
def joinsAcross (before after : Text) : Bool :=
  let holds (ranges : List (Nat × Nat)) (t : Text) : Bool :=
    match (t.dropWhile isTransparent).head? with
    | some c => Text.inRanges ranges c.toNat
    | none => false
  holds joinsNextRanges before && holds joinsPreviousRanges after

/-- Whether a mark takes the vowel of the letter before it. -/
def isVirama (c : Char) : Bool := Text.combiningClass c.toNat == 9

/-- Whether every joiner does something: behind a mark that takes a vowel any of them does, and the
one that keeps letters apart does between letters that join. -/
def joinersFit (before : Text) : Text → Bool
  | [] => true
  | c :: t =>
    (!isJoiner c || (before.head?.map isVirama).getD false ||
      c == nonJoiner && joinsAcross before t) && joinersFit (c :: before) t

/-! ## Directions -/

/-- In which direction a character is written. -/
inductive Direction where
  | leftToRight
  | rightToLeft
  | arabicDigit
  | europeanDigit
  /-- As the characters around it. -/
  | neutral
  /-- As the character that bears it. -/
  | mark
  deriving DecidableEq, Repr

/-- The nonspacing marks that are written as letters are. -/
def letterLikeMarks : List (Nat × Nat) :=
  [(0xCBF, 0xCBF), (0xCC6, 0xCC6), (0x11A07, 0x11A08), (0x11C3F, 0x11C3F)]

/-- The direction of a character. -/
def direction (c : Char) : Direction :=
  let n := c.toNat
  if (Text.isNonspacingMark c || n == 0x1171E) && !Text.inRanges letterLikeMarks n then .mark
  else if Text.inRanges rightToLeftRanges n then .rightToLeft
  else if Text.inRanges arabicDigitRanges n then .arabicDigit
  else if Text.inRanges europeanDigitRanges n then .europeanDigit
  else if Text.inRanges neutralRanges n then .neutral
  else .leftToRight

/-- Whether a character makes the order of a name on display a matter of care. -/
def Direction.turns (d : Direction) : Bool := d == .rightToLeft || d == .arabicDigit

/-- Whether the order of a label on display is certain: the first character tells its direction,
no letter goes the other way, the last character that is no mark is a letter or a digit, and of the
two kinds of digits there is one at most. -/
def isOrdered (directions : List Direction) : Bool :=
  let last := (directions.reverse.dropWhile (· == .mark)).head?
  match directions.head? with
  | none => true
  | some .rightToLeft =>
    directions.all (· != .leftToRight) &&
      (last == some .rightToLeft || last == some .europeanDigit || last == some .arabicDigit) &&
      !(directions.contains .europeanDigit && directions.contains .arabicDigit)
  | some .leftToRight =>
    directions.all (fun d => !d.turns) && (last == some .leftToRight || last == some .europeanDigit)
  | some _ => false

/-! ## Names -/

/-- Whether a label by itself is in order. -/
def Label.isValid (l : Label) : Bool :=
  !(l.letters.any isDelimiter) && !((l.letters.head?.map Text.isMark).getD false) &&
    joinersFit [] l.letters

/-- The form in ASCII of a name. -/
def toAscii? (name : Text) : Option Text := do
  let labels ← ((← countText? name).splitOn '.').mapM Label.read?
  let directions := labels.map fun l => l.letters.map direction
  let turns := directions.any fun ds => ds.any Direction.turns
  if labels.all Label.isValid && (!turns || directions.all isOrdered) then
    some (['.'].intercalate (labels.map Label.written))
  else none

end BytecodeParity.Http.DomainName
