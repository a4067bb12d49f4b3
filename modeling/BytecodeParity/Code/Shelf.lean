import BytecodeParity.Failure
import BytecodeParity.Text.CaseFold
/-!
# Code at hand

A source of code tells what code an account has, or why it cannot tell. A shelf is a source that
holds the codes itself; it knows addresses whatever the case of their letters.
-/

namespace BytecodeParity.Code

/-- Tells the code of an account, or in words why it cannot be told. -/
abbrev Source := String → Except String Text

/-- What accounts without code have. -/
def absent : Text := ['0', 'x']

/-- Codes by the small form of the address. -/
abbrev Shelf := OrderedMap Text Text

/-- Puts the code of an account on the shelf, in place of one that is there. -/
def Shelf.put (shelf : Shelf) (address : String) (code : Text) : Shelf :=
  OrderedMap.insert (Text.foldCase address.toList) code shelf

/-- The code of an account. -/
def Shelf.code (shelf : Shelf) (address : String) : Text :=
  (OrderedMap.find? (Text.foldCase address.toList) shelf).getD absent

/-- The shelf as a source, which always can tell. -/
def Shelf.source (shelf : Shelf) : Source := fun address => .ok (shelf.code address)

end BytecodeParity.Code
