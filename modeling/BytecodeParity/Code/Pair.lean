import BytecodeParity.Code.Comparison
import BytecodeParity.Code.Metadata
import BytecodeParity.Code.Zeroing
import BytecodeParity.Contract.Immutables
/-!
# From raw codes to a comparison

What is known to differ between a fork and the canonical deployment is taken out of both codes of
a contract, and what is left is compared.
-/

namespace BytecodeParity.Code

/-- Both codes of a contract, ready to be compared. -/
structure Pair where
  /-- The deployed code. -/
  deployed : Text
  /-- The reference code. -/
  reference : Text
  deriving DecidableEq, Repr

/-- A code without its trailer, behind a small mark. -/
def withoutTrailer (code : Text) : Text := '0' :: 'x' :: Hex.body (stripMetadata code)

/-- Takes out of both codes what is known to differ. Absent features are zeroed in the reference
before its trailer is cut off, and each side is masked with the values of its own registry. -/
def normalize (name : String) (deployed reference : Text)
    (deployedValues referenceValues : Registry) : Pair where
  deployed := mask (deployedValues.get name) (withoutTrailer deployed)
  reference := mask (referenceValues.get name) (withoutTrailer (zeroAbsentFeatures name reference))

/-- Compares the two codes of a contract after what is known to differ has been taken out. -/
def compareContract (name : String) (deployed reference : Text)
    (deployedValues referenceValues : Registry) : Comparison :=
  let pair := normalize name deployed reference deployedValues referenceValues
  compare pair.deployed pair.reference

end BytecodeParity.Code
