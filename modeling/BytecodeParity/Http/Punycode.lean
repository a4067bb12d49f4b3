import BytecodeParity.Text.Basic
/-!
# Punycode

Names in any script written in the letters, digits and the hyphen of ASCII. The ASCII characters of
a name come first; behind a hyphen its other characters follow in the order of their code points,
each as the distance, in steps over all positions of all code points, from the one before. A
distance is written in digits of base 36, lowest first, where the digit that ends it is told by a
threshold.
-/

namespace BytecodeParity.Http.Punycode

/-! ## Thresholds -/

/-- The threshold at the digit whose place is `k`, a multiple of the base. -/
def threshold (k bias : Nat) : Nat :=
  if k ≤ bias then 1 else if bias + 26 ≤ k then 26 else k - bias

theorem threshold_pos (k bias : Nat) : 0 < threshold k bias := by
  unfold threshold
  repeat' split
  all_goals omega

/-- Scales a distance down to where the bias is read off. -/
def scaleDown (distance bias : Nat) : Nat :=
  if 455 < distance then scaleDown (distance / 35) (bias + 36)
  else bias + 36 * distance / (distance + 38)
termination_by distance
decreasing_by exact Nat.div_lt_self (by omega) (by omega)

/-- The bias of the next distance, after one of this size with so many characters placed. -/
def adapt (distance placed : Nat) (isFirst : Bool) : Nat :=
  let d := if isFirst then distance / 700 else distance / 2
  scaleDown (d + d / placed) 0

/-- The bias at the start. -/
def firstBias : Nat := 72

/-- The code point at the start. -/
def firstCode : Nat := 0x80

/-! ## Writing -/

/-- A digit as it is written. -/
def digit (d : Nat) : Char := if d < 26 then Char.ofNat (0x61 + d) else Char.ofNat (0x30 + d - 26)

/-- The digits of a distance from the place `k` on. -/
def writeDistance (bias k distance : Nat) : Text :=
  let t := threshold k bias
  if distance < t then [digit distance]
  else digit (t + (distance - t) % (36 - t)) ::
    writeDistance bias (k + 36) ((distance - t) / (36 - t))
termination_by distance
decreasing_by
  have := threshold_pos k bias
  have : (distance - threshold k bias) / (36 - threshold k bias) ≤ distance - threshold k bias :=
    Nat.div_le_self _ _
  omega

/-- How far writing has come. -/
structure Written where
  output : Text
  distance : Nat
  bias : Nat
  placed : Nat

/-- Passes a character of the name on the way to all occurrences of a code point. -/
def pass (ascii code : Nat) (w : Written) (c : Char) : Written :=
  if c.toNat < code then { w with distance := w.distance + 1 }
  else if c.toNat = code then
    { output := w.output ++ writeDistance w.bias 36 w.distance
      distance := 0
      bias := adapt w.distance (w.placed + 1) (w.placed = ascii)
      placed := w.placed + 1 }
  else w

/-- Writes the occurrences of code points given in rising order, none below `first`. -/
def writeCodes (name : Text) (ascii : Nat) (first : Nat) (w : Written) : List Nat → Text
  | [] => w.output
  | code :: codes =>
    let w := { w with distance := w.distance + (code - first) * (w.placed + 1) }
    let w := name.foldl (pass ascii code) w
    writeCodes name ascii (code + 1) { w with distance := w.distance + 1 } codes

/-- Puts a code point into a rising list. -/
def insertCode (n : Nat) : List Nat → List Nat
  | [] => [n]
  | m :: ms => if n < m then n :: m :: ms else if n = m then m :: ms else m :: insertCode n ms

/-- The written form of a name. -/
def write (name : Text) : Text :=
  let ascii := name.filter fun c => c.toNat < 0x80
  let codes := ((name.map Char.toNat).filter fun n => 0x80 ≤ n).foldr insertCode []
  ascii ++ (if ascii.isEmpty then [] else ['-']) ++
    writeCodes name ascii.length firstCode ⟨[], 0, firstBias, ascii.length⟩ codes

/-! ## Reading -/

/-- The value of a digit. -/
def digitValue? (c : Char) : Option Nat :=
  if c.isLower then some (c.toNat - 0x61)
  else if c.isUpper then some (c.toNat - 0x41)
  else if c.isDigit then some (c.toNat - 0x30 + 26)
  else none

/-- How far reading has come: the characters placed, the last code point and the position behind
it, and of the distance being read the place, the weight of its next digit and what was read. -/
structure Reading where
  placed : Text
  code : Nat
  position : Nat
  bias : Nat
  place : Nat
  weight : Nat
  distance : Nat

/-- Reading between two distances. -/
def Reading.between (placed : Text) (code position bias : Nat) : Reading :=
  ⟨placed, code, position, bias, 36, 1, 0⟩

/-- Places the character that a whole distance leads to. -/
def Reading.put? (r : Reading) (distance : Nat) : Option Reading :=
  let count := r.placed.length + 1
  let total := r.position + distance
  let code := r.code + total / count
  let position := total % count
  if code.isValidChar then
    some (.between (r.placed.take position ++ Char.ofNat code :: r.placed.drop position) code
      (position + 1) (adapt distance count (r.position = 0)))
  else none

/-- Reads digits up to the end of a distance. Weights stay below what 32 bits hold. -/
def readFrom (r : Reading) : Text → Option Text
  | [] => if r.weight = 1 then some r.placed else none
  | c :: t => do
    let d ← digitValue? c
    let distance := r.distance + d * r.weight
    let limit := threshold r.place r.bias
    let weight := r.weight * (36 - limit)
    if d < limit then readFrom (← r.put? distance) t
    else if weight < UInt32.size then
      readFrom { r with place := r.place + 36, weight := weight, distance := distance } t
    else none

/-- The name of a written form. -/
def read? (t : Text) : Option Text :=
  let digits := (t.reverse.takeWhile (· != '-')).reverse
  let ascii := t.take (t.length - digits.length - 1)
  if ascii.isEmpty then readFrom (.between [] firstCode 0 firstBias) t
  else readFrom (.between ascii firstCode 0 firstBias) digits

end BytecodeParity.Http.Punycode
