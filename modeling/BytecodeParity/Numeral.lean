import BytecodeParity.Text.Basic
/-!
# Bounded numerals

Numbers written in digits of some base, read into a range that has a greatest value. One plus sign
may lead. The digits are read from left to right, so of a foreign character and an excess the one
met first is the fault.
-/

namespace BytecodeParity.Numeral

/-- Why a text is no number below the bound. -/
inductive Fault where
  /-- There is no character at all. -/
  | empty
  /-- A character is not a digit of the base, or a sign stands alone. -/
  | invalidDigit
  /-- The number reaches the bound. -/
  | tooLarge
  deriving DecidableEq, Repr

/-- The wording of a fault. -/
def Fault.message : Fault → String
  | .empty => "cannot parse integer from empty string"
  | .invalidDigit => "invalid digit found in string"
  | .tooLarge => "number too large to fit in target type"

/-- The value of a digit, letters of either case standing for ten and above. -/
def digitValue? (base : Nat) (c : Char) : Option Nat :=
  let n := c.toNat
  let value :=
    if '0'.toNat ≤ n ∧ n ≤ '9'.toNat then some (n - '0'.toNat)
    else if 'a'.toNat ≤ n ∧ n ≤ 'z'.toNat then some (n - 'a'.toNat + 10)
    else if 'A'.toNat ≤ n ∧ n ≤ 'Z'.toNat then some (n - 'A'.toNat + 10)
    else none
  value.filter (· < base)

/-- Reads on behind digits that denote `value`. -/
def readDigits (base bound value : Nat) : Text → Except Fault Nat
  | [] => .ok value
  | c :: t =>
    match digitValue? base c with
    | none => .error .invalidDigit
    | some d =>
      if value * base + d < bound then readDigits base bound (value * base + d) t
      else .error .tooLarge

/-- The number below `bound` that a text denotes in the given base. -/
def read (base bound : Nat) : Text → Except Fault Nat
  | [] => .error .empty
  | ['+'] => .error .invalidDigit
  | '+' :: t => readDigits base bound 0 t
  | t => readDigits base bound 0 t

/-- The number below `bound` that a text denotes, if it denotes one. -/
def read? (base bound : Nat) (t : Text) : Option Nat := (read base bound t).toOption

end BytecodeParity.Numeral
