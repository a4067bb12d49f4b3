import BytecodeParity.Json.Reader
/-!
# Reading JSON texts of known shape

Answers and files whose shape is known are read directly into the types of this library. A record
is written as an object, or as a list of its fields in their order. Members that a record does not
know are passed over.
-/

namespace BytecodeParity.Json.Reader

/-- Refuses a value that is not of the expected type, saying what stands there instead. Of lists
and objects only the beginning is looked at. -/
def unexpected {α : Type} (expected : String) : Reader α := do
  match ← peekSolid with
  | some '[' => throw (.invalidType (describe (.array [])) expected)
  | some '\x7b' => throw (.invalidType (describe (.object [])) expected)
  | _ =>
    let found ← scalar
    throw (.invalidType found.describe expected)

/-- Reads a string, which messages call `expected`. -/
def text (expected : String) : Reader String := do
  match ← peekSolid with
  | some '"' => drop; string
  | _ => unexpected expected

/-- Reads a natural number below `2 ^ 64`. -/
def nat64 : Reader Nat := do
  match ← peekSolid with
  | some c =>
    if c = '-' || isDigit c then
      match ← number with
      | .integer n =>
        if 0 ≤ n then pure n.toNat
        else throw (.invalidValue (describe (.number (.integer n))) "u64")
      | n => throw (.invalidType (describe (.number n)) "u64")
    else unexpected "u64"
  | none => unexpected "u64"

/-- Reads nothing for null and else what `reader` reads. -/
def optional {α : Type} (reader : Reader α) : Reader (Option α) := do
  match ← peekSolid with
  | some 'n' => drop; word ['u', 'l', 'l']; pure none
  | _ => return some (← reader)

/-- Reads a number that is the name of a member, from behind the opening quote. -/
def nat64Name : Reader Nat := do
  match ← peek with
  | some c =>
    if c = '-' || isDigit c then
      let n ← nat64
      if (← peek) = some '"' then drop; pure n
      else throw .expectedQuote
    else throw .keyNotNumber
  | none => throw .keyNotNumber

/-- Reads an object whose members are alike, where `depth` lists and objects may still be opened. -/
def map {κ α : Type} [LT κ] [DecidableLT κ] [DecidableEq κ] (depth : Nat)
    (name : Reader κ) (value : Reader α) : Reader (OrderedMap κ α) := do
  match ← peekSolid with
  | some '\x7b' => if depth = 0 then throw .tooDeep else drop; members name value
  | _ => unexpected "a map"

/-! ## Records -/

/-- A field of a record of type `σ`. -/
structure Field (σ : Type) where
  name : String
  /-- Whether an object without the field is refused. -/
  requiredInObject : Bool
  /-- Whether a list that ends before the field is refused. -/
  requiredInList : Bool
  /-- Reads the value of the field into the record. -/
  read : σ → Reader σ

/-- How the records of type `σ` are written. -/
structure Layout (σ : Type) where
  /-- How messages call such a record. -/
  title : String
  fields : List (Field σ)
  /-- The record in which no field has been read. -/
  initial : σ

namespace Layout

variable {σ : Type}

/-- The record in the words of a message about its length. -/
def sized (l : Layout σ) : String :=
  l.title ++ " with " ++ toString l.fields.length ++
    (if l.fields.length = 1 then " element" else " elements")

/-- The first required field of which nothing was read. -/
def absent? (l : Layout σ) (seen : List String) : Option (Field σ) :=
  l.fields.find? fun f => f.requiredInObject && !seen.contains f.name

/-- Reads members into the record, the fields of which those seen have been read. The fuel bounds
the number of members. -/
def membersFrom (l : Layout σ) : Nat → Bool → List String → σ → Reader σ
  | 0, _, _, _ => throw (.endOfText .object)
  | fuel + 1, first, seen, record => do
    if ← nextName first then
      let name ← string
      match l.fields.find? fun f => f.name == name with
      | none =>
        colon
        skipValue
        membersFrom l fuel false seen record
      | some field =>
        if seen.contains name then throw (.duplicateField name)
        else
          colon
          let record ← field.read record
          membersFrom l fuel false (name :: seen) record
    else
      match l.absent? seen with
      | some field => throw (.missingField field.name)
      | none =>
        drop
        pure record

/-- Reads the items of a list into the fields of a record, after `read` of them. -/
def itemsFrom (l : Layout σ) : List (Field σ) → Nat → σ → Reader σ
  | [], _, record => do
    endOfList
    pure record
  | field :: fields, read, record => do
    if ← nextItem (read = 0) then
      let record ← field.read record
      itemsFrom l fields (read + 1) record
    else if (field :: fields).any fun f => f.requiredInList then
      throw (.invalidLength (read + ((field :: fields).takeWhile fun f => !f.requiredInList).length)
        l.sized)
    else
      endOfList
      pure record

/-- Reads a record, where `depth` lists and objects may still be opened. -/
def reader (l : Layout σ) (depth : Nat) : Reader σ := do
  match ← peekSolid with
  | some '[' => if depth = 0 then throw .tooDeep else drop; itemsFrom l l.fields 0 l.initial
  | some '\x7b' =>
    if depth = 0 then throw .tooDeep
    else
      drop
      membersFrom l ((← remaining) + 1) true [] l.initial
  | _ => unexpected l.title

/-- The record that a text holds. -/
def parse (l : Layout σ) (text : String) : Except Fault σ :=
  whole (l.reader depthLimit) text.toList

end Layout

end BytecodeParity.Json.Reader
