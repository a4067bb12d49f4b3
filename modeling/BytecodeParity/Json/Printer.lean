import BytecodeParity.Json.Basic
/-!
# Writing JSON values

A value is written on one line or laid out over several, and a third form shows its structure in
messages.
-/

namespace BytecodeParity.Json

/-- A number in four hexadecimal digits. -/
def fourDigits (n : Nat) : Text :=
  let digits := Text.hexDigits n
  List.replicate (4 - digits.length) '0' ++ digits

/-- How a character stands in a string. Only what must be is escaped. -/
def escapeChar (c : Char) : Text :=
  if c = '"' || c = '\\' then ['\\', c]
  else if c = '\n' then ['\\', 'n']
  else if c = '\r' then ['\\', 'r']
  else if c = '\t' then ['\\', 't']
  else if c = '\x08' then ['\\', 'b']
  else if c = '\x0c' then ['\\', 'f']
  else if c.toNat < 0x20 then ['\\', 'u'] ++ fourDigits c.toNat
  else [c]

/-- A string as it is written. -/
def quote (s : String) : String :=
  String.ofList (['"'] ++ s.toList.flatMap escapeChar ++ ['"'])

/-! ## On one line -/

mutual

/-- The value on one line, without blanks. -/
def compact : Json → String
  | array items => "[" ++ ",".intercalate (compactItems items) ++ "]"
  | object members => "\x7b" ++ ",".intercalate (compactMembers members) ++ "\x7d"
  | null => "null"
  | bool b => toString b
  | number n => String.ofList n.text
  | string s => quote s

/-- The items of a list on one line each. -/
def compactItems : List Json → List String
  | [] => []
  | v :: vs => compact v :: compactItems vs

/-- The members of an object on one line each. -/
def compactMembers : List (String × Json) → List String
  | [] => []
  | (k, v) :: ms => (quote k ++ ":" ++ compact v) :: compactMembers ms

end

/-! ## Over several lines -/

/-- A container with its parts, if there are any, each on a line of its own. -/
def block (opening closing indent : String) (parts : List String) : String :=
  if parts.isEmpty then opening ++ closing
  else opening ++ "\n" ++ ",\n".intercalate parts ++ "\n" ++ indent ++ closing

mutual

/-- The value laid out with each part on a line of its own, two blanks deeper than its container.
Empty lists and objects stay on one line. -/
def prettyAt (indent : String) : Json → String
  | array items => block "[" "]" indent (prettyItems (indent ++ "  ") items)
  | object members => block "\x7b" "\x7d" indent (prettyMembers (indent ++ "  ") members)
  | null => "null"
  | bool b => toString b
  | number n => String.ofList n.text
  | string s => quote s

/-- The items of a list, each laid out behind its indentation. -/
def prettyItems (indent : String) : List Json → List String
  | [] => []
  | v :: vs => (indent ++ prettyAt indent v) :: prettyItems indent vs

/-- The members of an object, each laid out behind its indentation. -/
def prettyMembers (indent : String) : List (String × Json) → List String
  | [] => []
  | (k, v) :: ms => (indent ++ quote k ++ ": " ++ prettyAt indent v) :: prettyMembers indent ms

end

/-- The value laid out over several lines. -/
def pretty (v : Json) : String := prettyAt "" v

/-! ## In messages -/

/-- A string in double quotes as messages show it. -/
def shown (s : String) : String := String.ofList (Text.quoted s.toList)

mutual

/-- The value with the kind of each part. -/
def inspect : Json → String
  | null => "Null"
  | bool b => "Bool(" ++ toString b ++ ")"
  | number n => "Number(" ++ String.ofList n.text ++ ")"
  | string s => "String(" ++ shown s ++ ")"
  | array items => "Array [" ++ ", ".intercalate (inspectItems items) ++ "]"
  | object members => "Object \x7b" ++ ", ".intercalate (inspectMembers members) ++ "\x7d"

/-- The items of a list with their kinds. -/
def inspectItems : List Json → List String
  | [] => []
  | v :: vs => inspect v :: inspectItems vs

/-- The members of an object with the kinds of their values. -/
def inspectMembers : List (String × Json) → List String
  | [] => []
  | (k, v) :: ms => (shown k ++ ": " ++ inspect v) :: inspectMembers ms

end

end BytecodeParity.Json
