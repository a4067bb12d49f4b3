import BytecodeParity.Code.Mask
import BytecodeParity.Hex
import BytecodeParity.Text.Lossy
/-!
# Comparing two codes

Two codes are compared byte by byte, a byte of code being two bytes of text. Bytes with a masked
character on either side are passed over, and where one code has ended the other's bytes are
compared with a stand-in.
-/

namespace BytecodeParity

/-- A byte at which two codes disagree. -/
structure Difference where
  /-- Which byte of the code it is, counted from zero. -/
  position : Nat
  /-- The byte of the deployed code as text. -/
  deployed : Text
  /-- The byte of the reference code as text. -/
  reference : Text
  deriving DecidableEq, Repr

/-- The outcome of comparing a deployed code with its reference. -/
structure Comparison where
  /-- Whether no byte differs. -/
  identical : Bool
  /-- Size of the deployed code minus that of the reference, in bytes. -/
  sizeDelta : Int
  /-- The bytes that differ, by ascending position. -/
  differences : List Difference
  deriving DecidableEq, Repr

namespace Code

/-- Stands for a byte that one side does not have. -/
def missingByte : Text := ['-', '-']

/-- The bytes of two codes side by side, up to the end of the longer one. -/
def align : List Text → List Text → List (Text × Text)
  | [], rs => rs.map fun r => (missingByte, r)
  | d :: ds, [] => (d, missingByte) :: align ds []
  | d :: ds, r :: rs => (d, r) :: align ds rs

/-- The difference between two bytes of text at a position, if they count as different. -/
def difference? (position : Nat) (deployed reference : Text) : Option Difference :=
  if isMasked deployed || isMasked reference || deployed == reference then none
  else some ⟨position, deployed, reference⟩

/-- The differences between bytes side by side, numbered from zero. -/
def differences (bytes : List (Text × Text)) : List Difference :=
  bytes.zipIdx.filterMap fun e => difference? e.2 e.1.1 e.1.2

/-- Compares two codes, with or without their marks. The difference in size is cut towards zero
to whole bytes. -/
def compare (deployed reference : Text) : Comparison :=
  let d := Text.utf8 (Hex.body deployed)
  let r := Text.utf8 (Hex.body reference)
  let found := differences (align (Text.pairs d) (Text.pairs r))
  { identical := found.isEmpty
    sizeDelta := Int.tdiv ((d.length : Int) - r.length) 2
    differences := found }

end Code

end BytecodeParity
