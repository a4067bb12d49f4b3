import BytecodeParity.Text.Basic
/-!
# Decimal text of binary numbers

A finite binary number is written with the fewest decimal digits that still lie closer to it than
to any other number of its kind. The digits are found in exact integer arithmetic: on the grid of
decimals with one digit, with two digits and so on, the neighbours of the number are tried until
one of them reads back.
-/

namespace BytecodeParity.Decimal

/-! ## Digits -/

/-- A positive number as `significand * 2 ^ exponent`. -/
structure Binary where
  significand : Nat
  exponent : Int
  /-- Whether the next smaller number is only half as far away as the next greater one. -/
  narrowBelow : Bool
  deriving DecidableEq, Repr

/-- The bit in front of the fraction, which is not written. -/
def hiddenBit : Nat := 0x10000000000000

/-- The bit of the sign. -/
def signBit : Nat := 0x8000000000000000

/-- The absolute value of the number with these bits, taken to be finite and not zero. -/
def Binary.ofBits (bits : UInt64) : Binary :=
  let fraction : Nat := bits.toNat % hiddenBit
  let scale : Nat := bits.toNat / hiddenBit % 0x800
  if scale = 0 then ⟨fraction, -1074, false⟩
  else ⟨hiddenBit + fraction, (scale : Int) - 1075, fraction = 0 && 1 < scale⟩

/-- A fraction of two natural numbers. -/
structure Ratio where
  num : Nat
  den : Nat
  deriving DecidableEq, Repr

/-- The fraction multiplied by a power of a base. -/
def Ratio.shift (base : Nat) (exponent : Int) (r : Ratio) : Ratio :=
  if 0 ≤ exponent then ⟨r.num * Nat.pow base exponent.toNat, r.den⟩
  else ⟨r.num, r.den * Nat.pow base (-exponent).toNat⟩

/-- The exponent of the power of ten at or below a positive fraction. -/
def Ratio.magnitude (r : Ratio) : Int :=
  if r.den ≤ r.num then ((Nat.toDigits 10 (r.num / r.den)).length : Int) - 1
  else -((Nat.toDigits 10 ((r.den + r.num - 1) / r.num - 1)).length : Int)

/-- Whether a decimal reads back as the number. Everything is given in quarters of the number's
last place; a decimal half way to a neighbour reads back as the even one of the two. -/
def readsBack (b : Binary) (quarters : Ratio) : Bool :=
  let middle := 4 * b.significand
  let low := if b.narrowBelow then middle - 1 else middle - 2
  let high := middle + 2
  let above := low * quarters.den < quarters.num
  let below := quarters.num < high * quarters.den
  let onEnd := quarters.num = low * quarters.den || quarters.num = high * quarters.den
  (above && below) || (onEnd && b.significand % 2 = 0)

/-- The multiple of `10 ^ place` nearest to the number among those next to it that read back, if
there is one. Of two equally near multiples the even one is taken. -/
def nearestAt? (b : Binary) (place : Int) : Option Nat :=
  let scaled := Ratio.shift 10 (-place) (Ratio.shift 2 b.exponent ⟨b.significand, 1⟩)
  let below := scaled.num / scaled.den
  let candidate (n : Nat) : Bool :=
    readsBack b (Ratio.shift 2 (2 - b.exponent) (Ratio.shift 10 place ⟨n, 1⟩))
  match candidate below, candidate (below + 1) with
  | false, false => none
  | true, false => some below
  | false, true => some (below + 1)
  | true, true =>
    let twice := 2 * (scaled.num % scaled.den)
    if twice < scaled.den then some below
    else if scaled.den < twice then some (below + 1)
    else if below % 2 = 0 then some below else some (below + 1)

/-- A decimal as `digits * 10 ^ place`. -/
structure Shortest where
  digits : Nat
  place : Int
  deriving DecidableEq, Repr

/-- Tries the grids from that of `10 ^ place` on to finer ones. -/
def shortestFrom (b : Binary) (place : Int) : Nat → Shortest
  | 0 => ⟨(nearestAt? b place).getD 0, place⟩
  | tries + 1 =>
    match nearestAt? b place with
    | some n => ⟨n, place⟩
    | none => shortestFrom b (place - 1) tries

/-- The decimal with the fewest digits that reads back. Seventeen digits always do. -/
def shortest (b : Binary) : Shortest :=
  shortestFrom b (Ratio.shift 2 b.exponent ⟨b.significand, 1⟩).magnitude 16

/-! ## Layout -/

/-- The exponents of ten from which numbers are written in positional notation. -/
def positionalFrom : Int := -5

/-- The exponents of ten up to which numbers are written in positional notation. -/
def positionalTo : Int := 15

/-- Digits without the zeros at their end, one digit at least. -/
def withoutTrailingZeros (digits : Text) : Text :=
  match (digits.reverse.dropWhile (· == '0')).reverse with
  | [] => ['0']
  | kept => kept

/-- The digits with a point behind the one that stands for `10 ^ 0`, the first of them standing
for `10 ^ exponent`. There is a digit on either side of the point. -/
def positional (digits : Text) (exponent : Int) : Text :=
  if exponent < 0 then
    ['0', '.'] ++ List.replicate ((-exponent).toNat - 1) '0' ++ digits
  else
    let whole := exponent.toNat + 1
    let padded := digits ++ List.replicate (whole + 1 - digits.length) '0'
    padded.take whole ++ ['.'] ++ padded.drop whole

/-- The digits with a point behind the first, followed by the exponent with its sign. -/
def scientific (digits : Text) (exponent : Int) : Text :=
  let mantissa :=
    match digits with
    | d :: e :: rest => d :: '.' :: e :: rest
    | ds => ds
  mantissa ++ ['e', if exponent < 0 then '-' else '+'] ++ Nat.toDigits 10 exponent.natAbs

/-- The text of a finite number. Zero has a sign as any other number. -/
def text (x : Float) : Text :=
  let bits := x.toBits
  let sign := if signBit ≤ bits.toNat then ['-'] else []
  if bits.toNat % signBit = 0 then sign ++ ['0', '.', '0']
  else
    let s := shortest (Binary.ofBits bits)
    let all := Nat.toDigits 10 s.digits
    let exponent := s.place + all.length - 1
    let digits := withoutTrailingZeros all
    sign ++
      if positionalFrom ≤ exponent ∧ exponent ≤ positionalTo then positional digits exponent
      else scientific digits exponent

end BytecodeParity.Decimal
