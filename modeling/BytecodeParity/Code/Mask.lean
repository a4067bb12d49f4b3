import BytecodeParity.Text.Replace
/-!
# Masking

Known values are written over with a character that is no hexadecimal digit, so that what differs
between two deployments by construction is left out of the comparison.
-/

namespace BytecodeParity.Code

/-- The character written over a masked value. -/
def maskChar : Char := 'x'

/-- Masks one value wherever it occurs, whatever the case of its letters. The mask is as long, in
bytes, as the value. -/
def maskValue (code value : Text) : Text :=
  let value := Text.lower value
  Text.replaceAll value (List.replicate (Text.byteSize value) maskChar) code

/-- Masks the values one after the other, in a code brought to small letters. -/
def mask (values : List Text) (code : Text) : Text :=
  values.foldl maskValue (Text.lower code)

/-- Why a list of values cannot be masked. -/
inductive MaskFault where
  /-- One of the values is empty. -/
  | emptyValue
  deriving DecidableEq, Repr

/-- The wording of the fault. -/
def MaskFault.message : MaskFault → String
  | .emptyValue => "cannot mask an empty value"

/-- Masks values of unknown origin, after a look whether there is something to each of them. -/
def mask? (values : List Text) (code : Text) : Except MaskFault Text :=
  if values.any List.isEmpty then .error .emptyValue else .ok (mask values code)

/-- Whether a piece of code holds a masked character. -/
def isMasked (piece : Text) : Bool := piece.any (· == maskChar)

end BytecodeParity.Code
