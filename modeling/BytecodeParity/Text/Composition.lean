import BytecodeParity.Text.CompositionTable
/-!
# Composed text

The form of text in which a letter and its marks are one character wherever there is one, and other
marks on a character stand in a fixed order (Normalization Form C). Text is taken apart, marks that
can change places are ordered by their class, and what can be put together is put together.
-/

namespace BytecodeParity.Text

/-! ## Data -/

/-- A character that two others make up. -/
structure Composite where
  composite : Nat
  first : Nat
  second : Nat
  deriving Repr

/-- The characters that two others make up, Hangul syllables left out. -/
def composites : Array Composite :=
  ((readTable compositeTable).filterMap fun e =>
    match e with
    | [c, a, b] => some ⟨c, a, b⟩
    | _ => none).toArray

/-- The characters that stand for others. -/
def replacedCharacters : Array (Nat × List Nat) :=
  ((readTable replacedTable).filterMap fun e =>
    match e with
    | c :: parts => some (c, parts)
    | [] => none).toArray

/-- The classes of marks, by ranges. -/
def combiningClasses : Array (Nat × Nat × Nat) :=
  ((readTable combiningClassTable).filterMap fun e =>
    match e with
    | [a, b, k] => some (a, b, k)
    | _ => none).toArray

/-- The class of a code point. Marks of different classes other than zero can change places. -/
def combiningClass (n : Nat) : Nat :=
  if n < 0x300 then 0
  else ((combiningClasses.find? fun e => e.1 ≤ n && n ≤ e.2.1).map fun e => e.2.2).getD 0

/-! ## Taking apart -/

/-- The number of final consonants of Hangul, none included. -/
def hangulFinals : Nat := 28

/-- The number of Hangul syllables that begin with the same consonant. -/
def hangulPerInitial : Nat := 21 * hangulFinals

/-- The parts of a Hangul syllable. -/
def hangulParts? (n : Nat) : Option (List Nat) :=
  if 0xAC00 ≤ n ∧ n ≤ 0xD7A3 then
    let i := n - 0xAC00
    let final := i % hangulFinals
    some ([0x1100 + i / hangulPerInitial, 0x1161 + i % hangulPerInitial / hangulFinals] ++
      if final = 0 then [] else [0x11A7 + final])
  else none

/-- The parts of a code point, taken apart at most as often as `depth` says. -/
def partsOf : Nat → Nat → List Nat
  | 0, n => [n]
  | depth + 1, n =>
    match composites.find? fun e => e.composite == n with
    | some e => partsOf depth e.first ++ [e.second]
    | none => [n]

/-- The parts of a code point that cannot be taken apart further. Three times is enough. -/
def decompose (n : Nat) : List Nat :=
  if n < 0xC0 then [n]
  else
    match hangulParts? n with
    | some parts => parts
    | none =>
      match replacedCharacters.find? fun e => e.1 == n with
      | some e => e.2
      | none => partsOf 4 n

/-! ## Ordering -/

/-- Puts a mark in front of the marks with greater classes that end the text before it, which is
given last one first. -/
def insertMark (n : Nat) : List Nat → List Nat
  | [] => [n]
  | m :: before =>
    if combiningClass n ≠ 0 ∧ combiningClass n < combiningClass m then m :: insertMark n before
    else n :: m :: before

/-- The code points with marks in order. -/
def orderMarks (ns : List Nat) : List Nat :=
  (ns.foldl (fun before n => insertMark n before) []).reverse

/-! ## Putting together -/

/-- The code point that two make up. -/
def composePair? (a b : Nat) : Option Nat :=
  if 0x1100 ≤ a ∧ a ≤ 0x1112 ∧ 0x1161 ≤ b ∧ b ≤ 0x1175 then
    some (0xAC00 + (a - 0x1100) * hangulPerInitial + (b - 0x1161) * hangulFinals)
  else if 0xAC00 ≤ a ∧ a ≤ 0xD7A3 ∧ (a - 0xAC00) % hangulFinals = 0 ∧ 0x11A8 ≤ b ∧ b ≤ 0x11C2 then
    some (a + (b - 0x11A7))
  else (composites.find? fun e => e.first == a && e.second == b).map Composite.composite

/-- Puts together what follows a code point that begins a character. `passed` holds the marks that
stay, last one first; a mark that is blocked by another of its class or of a greater one stays. -/
def composeFrom (starter : Nat) (passed : List Nat) : List Nat → List Nat
  | [] => starter :: passed.reverse
  | n :: ns =>
    let k := combiningClass n
    let isBlocked :=
      match passed with
      | [] => false
      | m :: _ => combiningClass m = 0 || k ≤ combiningClass m
    match if isBlocked then none else composePair? starter n with
    | some c => composeFrom c passed ns
    | none =>
      if k = 0 then starter :: passed.reverse ++ composeFrom n [] ns
      else composeFrom starter (n :: passed) ns

/-- Puts a list of code points together. -/
def composeAll : List Nat → List Nat
  | [] => []
  | n :: ns => if combiningClass n = 0 then composeFrom n [] ns else n :: composeAll ns

/-- The composed form of a text. -/
def composed (t : Text) : Text :=
  if t.all fun c => c.toNat < 0x300 then t
  else (composeAll (orderMarks (t.flatMap fun c => decompose c.toNat))).map Char.ofNat

end BytecodeParity.Text
