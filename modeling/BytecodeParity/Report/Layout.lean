import BytecodeParity.Text.Basic
/-!
# Numbers and rules in print

How sizes, signed numbers and positions are written in reports, and the rules between their parts.
-/

namespace BytecodeParity.Report

/-- Characters in a rule. -/
def ruleWidth : Nat := 80

/-- The rule around a part of the output. -/
def heavyRule : String := String.ofList (List.replicate ruleWidth '=')

/-- The rule around the head of a contract. -/
def lightRule : String := String.ofList (List.replicate ruleWidth '─')

/-- The digits with a comma in front of every three that are left, except at the front. -/
def groupThousands : Text → Text
  | [] => []
  | d :: ds =>
    if ds.length % 3 = 0 && !ds.isEmpty then d :: ',' :: groupThousands ds
    else d :: groupThousands ds

/-- A number with its digits in groups of three. -/
def formatSize (n : Nat) : String := String.ofList (groupThousands (Nat.toDigits 10 n))

/-- A number with its sign, zero with a plus sign. -/
def formatSigned (n : Int) : String :=
  (if n < 0 then "-" else "+") ++ toString n.natAbs

/-- A number set to the right of a field of this many characters. -/
def alignRight (width n : Nat) : String :=
  let digits := Nat.toDigits 10 n
  String.ofList (List.replicate (width - digits.length) ' ' ++ digits)

end BytecodeParity.Report
