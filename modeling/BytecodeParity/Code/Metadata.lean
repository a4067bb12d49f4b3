import BytecodeParity.Hex
/-!
# The metadata trailer

A compiler ends the code of a contract with a block of metadata and, as the last two bytes, the
length of that block. Two builds of one source can differ there alone, so the trailer is cut off
before codes are compared.
-/

namespace BytecodeParity.Code

/-- Characters of the length field. -/
def lengthFieldSize : Nat := 4

/-- Block lengths from this one on are taken not to be metadata. -/
def metadataLimit : Nat := 100

/-- The number of bytes of text that the trailer of a body takes, length field included, as far as
its last characters declare a block of plausible length. -/
def trailerSize? (body : Text) : Option Nat :=
  if body.length < lengthFieldSize then none
  else do
    let length ← Numeral.read? 16 UInt16.size (body.drop (body.length - lengthFieldSize))
    if 0 < length ∧ length < metadataLimit then some (2 * length + lengthFieldSize) else none

/-- A code without its trailer. Nothing is cut when the trailer would leave no code in front of it
or would begin inside a character. The mark stays. -/
def stripMetadata (code : Text) : Text :=
  let (mark, body) := Hex.splitMark code
  match (trailerSize? body).bind fun n => Text.dropLastBytes? n body with
  | some (c :: kept) => mark ++ c :: kept
  | _ => code

end BytecodeParity.Code
