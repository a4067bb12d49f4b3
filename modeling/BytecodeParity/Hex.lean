import BytecodeParity.Numeral
import BytecodeParity.Text.Quoted
/-!
# Hexadecimal text

Code, addresses and hashes are written as hexadecimal digits behind an optional `0x` or `0X`. This
module takes the mark off, brings values into the form in which they are stored and searched, and
checks that a text consists of whole bytes.
-/

namespace BytecodeParity.Hex

/-- The leading `0x` or `0X` of a text, empty if there is none, and what follows it. -/
def splitMark : Text → Text × Text
  | '0' :: 'x' :: t => (['0', 'x'], t)
  | '0' :: 'X' :: t => (['0', 'X'], t)
  | t => ([], t)

/-- A text without its mark. Only one mark is taken off. -/
def body (t : Text) : Text := (splitMark t).2

/-- The form in which values are stored: no surrounding blanks, no mark, small letters. -/
def raw (t : Text) : Text := Text.lower (body (Text.trim t))

/-- Whether a code is empty, as that of an account without code is. -/
def isEmptyCode (code : Text) : Bool := (body code).isEmpty

/-- Number of bytes that a code stands for, two digits to the byte. -/
def byteLength (code : Text) : Nat := Text.byteSize (body code) / 2

/-! ## Whole bytes -/

/-- Why a text is not a sequence of whole bytes. -/
inductive Fault where
  /-- The number of digits is odd. -/
  | oddLength
  /-- The byte of the text at this position is not a digit. -/
  | invalidByte (byte : UInt8) (position : Nat)
  deriving DecidableEq, Repr

/-- The wording of a fault. A byte is shown as the character of that number, also where it is
part of a longer character. -/
def Fault.message : Fault → String
  | .oddLength => "Odd number of digits"
  | .invalidByte b i =>
    "Invalid character " ++ String.ofList (Text.quotedChar (Char.ofNat b.toNat)) ++
      " at position " ++ toString i

/-- Whether a byte is the code of a hexadecimal digit. -/
def isDigitByte (b : UInt8) : Bool := (Numeral.digitValue? 16 (Char.ofNat b.toNat)).isSome

/-- What keeps a text from being whole bytes. The length is looked at first. -/
def fault? (t : Text) : Option Fault :=
  let bytes := Text.utf8 t
  if bytes.length % 2 = 1 then some .oddLength
  else
    (bytes.zipIdx.find? fun e => !isDigitByte e.1).map fun e => .invalidByte e.1 e.2

end BytecodeParity.Hex
