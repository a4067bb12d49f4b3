import BytecodeParity.Json.Basic
import BytecodeParity.Json.Fault
import BytecodeParity.Numeral
/-!
# The smallest parts of a JSON text

Readers take what they read off the front of a text. This module holds the readers for blanks,
words, numbers and strings; those for whole values are built from them.
-/

namespace BytecodeParity.Json

/-- Reads something off the front of a text. -/
abbrev Reader (α : Type) := StateT Text (Except Fault) α

namespace Reader

/-- The next character, which stays. -/
def peek : Reader (Option Char) := fun t => .ok (t.head?, t)

/-- Takes one character. -/
def drop : Reader Unit := fun t => .ok ((), t.tail)

/-- The next character, taken. -/
def next : Reader (Option Char) := fun t => .ok (t.head?, t.tail)

/-- The characters between the parts of a text that mean nothing. -/
def isBlank (c : Char) : Bool := c == ' ' || c == '\n' || c == '\t' || c == '\r'

/-- Passes over blanks and shows the next character, which stays. -/
def peekSolid : Reader (Option Char) := fun t =>
  let rest := t.dropWhile isBlank
  .ok (rest.head?, rest)

/-- How many characters are left. -/
def remaining : Reader Nat := fun t => .ok (t.length, t)

/-- Takes the rest of a word. -/
def word : List Char → Reader Unit
  | [] => pure ()
  | c :: cs => do
    match ← next with
    | none => throw (.endOfText .value)
    | some d => if c = d then word cs else throw .expectedWord

/-! ## Numbers -/

/-- Whether a character is one of the ten digits. -/
def isDigit (c : Char) : Bool := '0'.toNat ≤ c.toNat && c.toNat ≤ '9'.toNat

/-- Takes all digits that follow. -/
def digits : Reader Text := fun t => .ok (t.takeWhile isDigit, t.dropWhile isDigit)

/-- Appends digits to a number for as long as it stays below `2 ^ 64`. The answer also tells how
many digits are left over. -/
def appendDigits (n : Nat) : Text → Nat × Nat
  | [] => (n, 0)
  | c :: cs =>
    let longer := 10 * n + (c.toNat - '0'.toNat)
    if longer < UInt64.size then appendDigits longer cs else (n, cs.length + 1)

/-- `significand * 10 ^ exponent` as a real, nothing if it is too great. The scaling is by one
multiplication or division, by two where the exponent is beyond those of the reals. -/
def scale (significand : Nat) (exponent : Int) : Option Float :=
  let x := significand.toUInt64.toFloat
  if significand = 0 then some x
  else if 308 < exponent then none
  else if 0 ≤ exponent then
    let y := x * Float.ofScientific 1 false exponent.toNat
    if y.isInf then none else some y
  else if -308 ≤ exponent then some (x / Float.ofScientific 1 false (-exponent).toNat)
  else if -616 ≤ exponent then
    some (x / Float.ofScientific 1 false 308 / Float.ofScientific 1 false (-exponent - 308).toNat)
  else some 0

/-- A real with its sign. -/
def signed (negative : Bool) (x : Float) : Number := .real (if negative then -x else x)

/-- A real from its parts. -/
def real (negative : Bool) (significand : Nat) (exponent : Int) : Reader Number :=
  match scale significand exponent with
  | some x => pure (signed negative x)
  | none => throw .numberOutOfRange

/-- An integer, or a real where 64 bits do not hold it. -/
def integer (negative : Bool) (n : Nat) : Number :=
  if !negative then .integer n
  else if 0 < n ∧ n ≤ 0x8000000000000000 then .integer (-n)
  else .real (-n.toUInt64.toFloat)

/-- What a number lacks that ends where a digit has to follow. -/
def missingDigit {α : Type} : Reader α := do
  match ← peek with
  | none => throw (.endOfText .value)
  | some _ => throw .invalidNumber

/-- Greatest exponent that is taken at its value. -/
def exponentLimit : Nat := 0x7FFFFFFF

/-- Reads the exponent of a number, from behind its mark. -/
def exponentPart (negative : Bool) (significand : Nat) (shift : Int) : Reader Number := do
  let sign ← peek
  if sign = some '+' || sign = some '-' then drop
  match ← digits with
  | [] => missingDigit
  | ds =>
    let e := ds.foldl (fun n c => 10 * n + (c.toNat - '0'.toNat)) 0
    if exponentLimit < e then
      if significand ≠ 0 ∧ sign ≠ some '-' then throw .numberOutOfRange
      else pure (signed negative 0)
    else real negative significand (if sign = some '-' then shift - e else shift + e)

/-- Whether a character marks an exponent. -/
def marksExponent (c : Option Char) : Bool := c == some 'e' || c == some 'E'

/-- Reads a number from its first digit on. Digits that would lead beyond 64 bits only count for
the size of the number. -/
def unsigned (negative : Bool) : Reader Number := do
  match ← digits with
  | [] => missingDigit
  | '0' :: _ :: _ => throw .invalidNumber
  | whole =>
    let (n, skipped) := appendDigits 0 whole
    let mark ← peek
    if mark = some '.' then
      drop
      match ← digits with
      | [] => missingDigit
      | fraction =>
        let (m, left) := appendDigits n fraction
        let shift : Int := skipped - (fraction.length - left : Nat)
        if marksExponent (← peek) then
          drop
          exponentPart negative m shift
        else real negative m shift
    else if marksExponent mark then
      drop
      exponentPart negative n skipped
    else if skipped = 0 then pure (integer negative n)
    else real negative n skipped

/-- Reads a number. -/
def number : Reader Number := do
  match ← peek with
  | some '-' => drop; unsigned true
  | _ => unsigned false

/-- Passes over digits that have to be there. -/
def skipDigits : Reader Unit := do
  match ← digits with
  | [] => throw .invalidNumber
  | _ => pure ()

/-- Passes over an exponent, if one follows. -/
def skipExponent : Reader Unit := do
  if marksExponent (← peek) then
    drop
    let sign ← peek
    if sign = some '+' || sign = some '-' then drop
    skipDigits

/-- Passes over a number, however great it is. -/
def skipNumber : Reader Unit := do
  if (← peek) = some '-' then drop
  match ← digits with
  | [] => throw .invalidNumber
  | '0' :: _ :: _ => throw .invalidNumber
  | _ =>
    if (← peek) = some '.' then
      drop
      skipDigits
    skipExponent

/-! ## Strings -/

/-- Reads four hexadecimal digits. Whether the text is long enough is counted in bytes. -/
def hexUnit : Reader Nat := fun t =>
  let unit := t.take 4
  if Text.byteSize unit < 4 then .error (.endOfText .string)
  else
    match Numeral.readDigits 16 UInt16.size 0 unit with
    | .ok n => if unit.length = 4 then .ok (n, t.drop 4) else .error .invalidEscape
    | .error _ => .error .invalidEscape

/-- Takes one character of the escape that has to follow the first half of a surrogate pair. -/
def pairMark (c : Char) : Reader Unit := do
  match ← next with
  | none => throw (.endOfText .string)
  | some d => if c = d then pure () else throw .unpairedSurrogate

/-- Reads a code point written as an escape. Beyond the first plane it takes two. -/
def codePoint : Reader Char := do
  let high ← hexUnit
  if 0xDC00 ≤ high ∧ high ≤ 0xDFFF then throw .loneSurrogate
  else if high < 0xD800 ∨ 0xDBFF < high then pure (Char.ofNat high)
  else
    pairMark '\\'
    pairMark 'u'
    let low ← hexUnit
    if 0xDC00 ≤ low ∧ low ≤ 0xDFFF then
      pure (Char.ofNat ((high - 0xD800) * 0x400 + (low - 0xDC00) + 0x10000))
    else throw .loneSurrogate

/-- Reads an escape from behind its backslash, one by code point with the given reader. -/
def escape (codePoint : Reader Char) : Reader Char := do
  match ← next with
  | none => throw (.endOfText .string)
  | some 'u' => codePoint
  | some 'b' => pure '\x08'
  | some 'f' => pure '\x0c'
  | some 'n' => pure '\n'
  | some 'r' => pure '\r'
  | some 't' => pure '\t'
  | some c => if c = '"' ∨ c = '\\' ∨ c = '/' then pure c else throw .invalidEscape

/-- Reads on in a string behind the characters read, the last of which comes first. The fuel bounds
the number of characters. -/
def stringFrom (codePoint : Reader Char) : Nat → List Char → Reader Text
  | 0, _ => throw (.endOfText .string)
  | fuel + 1, read => do
    match ← next with
    | none => throw (.endOfText .string)
    | some '"' => pure read.reverse
    | some '\\' =>
      let c ← escape codePoint
      stringFrom codePoint fuel (c :: read)
    | some c =>
      if c.toNat < 0x20 then throw .controlCharacter
      else stringFrom codePoint fuel (c :: read)

/-- Reads a string from behind its opening quote. -/
def string : Reader String := do
  let fuel ← remaining
  let read ← stringFrom codePoint (fuel + 1) []
  pure (String.ofList read)

/-- Passes over a string from behind its opening quote. Halves of surrogate pairs need not meet. -/
def skipString : Reader Unit := do
  let fuel ← remaining
  let _ ← stringFrom (do let _ ← hexUnit; pure 'u') (fuel + 1) []
  pure ()

end Reader

end BytecodeParity.Json
