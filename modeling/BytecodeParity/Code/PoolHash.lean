import BytecodeParity.Hex
import BytecodeParity.Text.Replace
/-!
# The embedded pool init code hash

Several contracts compute pool addresses from a hash that is part of their code. A fork whose code
still carries the canonical hash would compute the addresses of canonical pools.
-/

namespace BytecodeParity

/-- Which hash a code carries. -/
inductive HashLocation where
  /-- The hash looked for, at this byte of the code. -/
  | found (byte : Nat)
  /-- The reference hash instead. -/
  | referenceFound
  /-- Neither. -/
  | missing
  deriving DecidableEq, Repr

/-- The location in words. -/
def HashLocation.describe : HashLocation → String
  | .found byte => "found at byte " ++ toString byte
  | .referenceFound => "reference hash found instead"
  | .missing => "neither hash found"

/-- Looks for the expected hash and then for the reference hash. An empty hash is found nowhere.
The offset in the text is halved to a position in the code. -/
def Code.locatePoolHash (code expected reference : Text) : HashLocation :=
  let body := Text.lower (Hex.body code)
  let expected := Hex.raw expected
  let reference := Hex.raw reference
  let foundAt := if expected.isEmpty then none else Text.offset? expected body
  match foundAt with
  | some offset => .found (offset / 2)
  | none =>
    if !reference.isEmpty && Text.occurs reference body then .referenceFound else .missing

end BytecodeParity
