/-!
# What is wrong with a JSON text

The causes for which a JSON text is refused, be it no JSON at all or not the data expected, and
their wording.
-/

namespace BytecodeParity.Json

/-- What was being read when the text ended. -/
inductive Unfinished where
  | value
  | list
  | object
  | string
  deriving DecidableEq, Repr

/-- How a message names what was being read. -/
def Unfinished.describe : Unfinished → String
  | value => "a value"
  | list => "a list"
  | object => "an object"
  | string => "a string"

/-- Why a text is refused. -/
inductive Fault where
  | endOfText (unfinished : Unfinished)
  /-- A word that begins like `true`, `false` or `null` goes on otherwise. -/
  | expectedWord
  | expectedValue
  | expectedColon
  | expectedListSeparator
  | expectedObjectSeparator
  | expectedQuote
  | keyNotString
  | keyNotNumber
  | trailingComma
  | trailingCharacters
  | invalidNumber
  | numberOutOfRange
  | invalidEscape
  | controlCharacter
  /-- The second half of a surrogate pair without the first, or the first with another after it. -/
  | loneSurrogate
  /-- The first half of a surrogate pair is followed by no escape. -/
  | unpairedSurrogate
  | tooDeep
  /-- The value is sound but not of the type expected. -/
  | invalidType (found expected : String)
  /-- The value is of the type expected but not one of its values. -/
  | invalidValue (found expected : String)
  /-- A list in place of a record ends before its last obligatory field. -/
  | invalidLength (length : Nat) (expected : String)
  | missingField (name : String)
  | duplicateField (name : String)
  deriving DecidableEq, Repr

/-- The wording of a fault. -/
def Fault.message : Fault → String
  | endOfText unfinished => "EOF while parsing " ++ unfinished.describe
  | expectedWord => "expected ident"
  | expectedValue => "expected value"
  | expectedColon => "expected `:`"
  | expectedListSeparator => "expected `,` or `]`"
  | expectedObjectSeparator => "expected `,` or `\x7d`"
  | expectedQuote => "expected `\"`"
  | keyNotString => "key must be a string"
  | keyNotNumber => "invalid value: expected key to be a number in quotes"
  | trailingComma => "trailing comma"
  | trailingCharacters => "trailing characters"
  | invalidNumber => "invalid number"
  | numberOutOfRange => "number out of range"
  | invalidEscape => "invalid escape"
  | controlCharacter => "control character (\\u0000-\\u001F) found while parsing a string"
  | loneSurrogate => "lone leading surrogate in hex escape"
  | unpairedSurrogate => "unexpected end of hex escape"
  | tooDeep => "recursion limit exceeded"
  | invalidType found expected => "invalid type: " ++ found ++ ", expected " ++ expected
  | invalidValue found expected => "invalid value: " ++ found ++ ", expected " ++ expected
  | invalidLength length expected =>
    "invalid length " ++ toString length ++ ", expected " ++ expected
  | missingField name => "missing field `" ++ name ++ "`"
  | duplicateField name => "duplicate field `" ++ name ++ "`"

end BytecodeParity.Json
