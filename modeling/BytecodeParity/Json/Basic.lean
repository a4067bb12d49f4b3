import BytecodeParity.Decimal
import BytecodeParity.OrderedMap
import BytecodeParity.Text.Quoted
/-!
# JSON values

The values of a JSON text, and how messages speak of them. The members of an object that was read
stand in ascending order of their names, each name once.
-/

namespace BytecodeParity

namespace Json

/-- A number: an integer that fits into 64 bits, with or without a sign, or else a binary
approximation. -/
inductive Number where
  | integer (value : Int)
  | real (value : Float)
  deriving Repr

/-- The decimal text of a number. A real is never written as an integer. -/
def Number.text : Number → Text
  | integer n => (toString n).toList
  | real x => Decimal.text x

end Json

/-- A JSON value. -/
inductive Json where
  | null
  | bool (value : Bool)
  | number (value : Json.Number)
  | string (value : String)
  | array (items : List Json)
  | object (members : List (String × Json))
  deriving Repr

namespace Json

/-- Whether a value is null. -/
def isNull : Json → Bool
  | null => true
  | _ => false

/-- A member of an object. Other values have none. -/
def member? (name : String) : Json → Option Json
  | object members => OrderedMap.find? name members
  | _ => none

/-- A member of an object that is not null. -/
def presentMember? (name : String) (value : Json) : Option Json :=
  (value.member? name).filter fun v => !v.isNull

/-- The characters of a string. Other values have none. -/
def text? : Json → Option String
  | string s => some s
  | _ => none

/-- A value in the words of a message about an unexpected type. -/
def describe : Json → String
  | null => "null"
  | bool b => "boolean `" ++ toString b ++ "`"
  | number (.integer n) => "integer `" ++ toString n ++ "`"
  | number (.real x) => "floating point `" ++ String.ofList (Decimal.text x) ++ "`"
  | string s => "string " ++ String.ofList (Text.quoted s.toList)
  | array _ => "sequence"
  | object _ => "map"

end Json

end BytecodeParity
