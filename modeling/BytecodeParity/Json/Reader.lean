import BytecodeParity.Json.Lexical
/-!
# Reading JSON texts

Values are read into `Json` or passed over. How deep values may lie within each other is bounded
for those that are read and not for those that are passed over, and the two differ in what they
say about some faults.
-/

namespace BytecodeParity.Json

namespace Reader

/-! ## Lists and objects -/

/-- Moves to the next item of a list, from behind the one before. Tells whether there is one. -/
def nextItem (first : Bool) : Reader Bool := do
  match ← peekSolid with
  | none => throw (.endOfText .list)
  | some ']' => pure false
  | some c =>
    if first then pure true
    else if c = ',' then
      drop
      match ← peekSolid with
      | none => throw (.endOfText .value)
      | some ']' => throw .trailingComma
      | some _ => pure true
    else throw .expectedListSeparator

/-- Moves to the name of the next member of an object and behind its opening quote. Tells whether
there is one. -/
def nextName (first : Bool) : Reader Bool := do
  match ← peekSolid with
  | none => throw (.endOfText .object)
  | some '\x7d' => pure false
  | some c =>
    if first then
      if c = '"' then drop; pure true else throw .keyNotString
    else if c = ',' then
      drop
      match ← peekSolid with
      | none => throw (.endOfText .value)
      | some '"' => drop; pure true
      | some '\x7d' => throw .trailingComma
      | some _ => throw .keyNotString
    else throw .expectedObjectSeparator

/-- Takes the colon between the name of a member and its value. -/
def colon : Reader Unit := do
  match ← peekSolid with
  | none => throw (.endOfText .object)
  | some ':' => drop
  | some _ => throw .expectedColon

/-- Takes the end of a list of which no more items are read. -/
def endOfList : Reader Unit := do
  match ← peekSolid with
  | none => throw (.endOfText .list)
  | some ']' => drop
  | some ',' =>
    drop
    if (← peekSolid) = some ']' then throw .trailingComma else throw .trailingCharacters
  | some _ => throw .trailingCharacters

/-- Reads the items of a list, those read before in reverse. The fuel bounds their number. -/
def itemsFrom {α : Type} (item : Reader α) : Nat → Bool → List α → Reader (List α)
  | 0, _, _ => throw (.endOfText .list)
  | fuel + 1, first, read => do
    if ← nextItem first then
      let a ← item
      itemsFrom item fuel false (a :: read)
    else
      drop
      pure read.reverse

/-- Reads the items of a list from behind its opening bracket. -/
def items {α : Type} (item : Reader α) : Reader (List α) := do
  itemsFrom item ((← remaining) + 1) true []

/-- Reads the members of an object into what was read before. The fuel bounds their number. -/
def membersFrom {κ α : Type} [LT κ] [DecidableLT κ] [DecidableEq κ]
    (name : Reader κ) (value : Reader α) :
    Nat → Bool → OrderedMap κ α → Reader (OrderedMap κ α)
  | 0, _, _ => throw (.endOfText .object)
  | fuel + 1, first, read => do
    if ← nextName first then
      let k ← name
      colon
      let a ← value
      membersFrom name value fuel false (OrderedMap.insert k a read)
    else
      drop
      pure read

/-- Reads the members of an object from behind its opening brace. Of members of one name the last
one stays. -/
def members {κ α : Type} [LT κ] [DecidableLT κ] [DecidableEq κ]
    (name : Reader κ) (value : Reader α) : Reader (OrderedMap κ α) := do
  membersFrom name value ((← remaining) + 1) true []

/-! ## Values -/

/-- How many lists and objects may lie within each other. -/
def depthLimit : Nat := 127

/-- Reads a value that has no parts. -/
def scalar : Reader Json := do
  match ← peek with
  | some 'n' => drop; word ['u', 'l', 'l']; pure .null
  | some 't' => drop; word ['r', 'u', 'e']; pure (.bool true)
  | some 'f' => drop; word ['a', 'l', 's', 'e']; pure (.bool false)
  | some '"' => drop; return .string (← string)
  | some c => if c = '-' || isDigit c then return .number (← number) else throw .expectedValue
  | none => throw (.endOfText .value)

/-- Reads a value in which `depth` lists and objects may lie within each other. -/
def value : Nat → Reader Json
  | 0 => do
    match ← peekSolid with
    | some '[' => throw .tooDeep
    | some '\x7b' => throw .tooDeep
    | _ => scalar
  | depth + 1 => do
    match ← peekSolid with
    | some '[' => drop; return .array (← items (value depth))
    | some '\x7b' => drop; return .object (← members string (value depth))
    | _ => scalar

/-! ## Passing over values -/

/-- A list or an object that is still open. -/
inductive Container where
  | list
  | object
  deriving DecidableEq, Repr

/-- The text ended inside a container. -/
def Container.unfinished : Container → Unfinished
  | list => .list
  | object => .object

/-- What stands where only a comma or the end of a container may stand. -/
def Container.expectedSeparator : Container → Fault
  | list => .expectedListSeparator
  | object => .expectedObjectSeparator

/-- The bracket that closes a container. -/
def Container.closing : Container → Char
  | list => ']'
  | object => '\x7d'

/-- Passes over a value without parts. -/
def skipScalar : Reader Unit := do
  match ← peek with
  | some 'n' => drop; word ['u', 'l', 'l']
  | some 't' => drop; word ['r', 'u', 'e']
  | some 'f' => drop; word ['a', 'l', 's', 'e']
  | some '"' => drop; skipString
  | some c => if c = '-' || isDigit c then skipNumber else throw .expectedValue
  | none => throw (.endOfText .value)

/-- Passes over the name of a member and the colon behind it. -/
def skipName : Reader Unit := do
  match ← peekSolid with
  | none => throw (.endOfText .object)
  | some '"' => drop; skipString; colon
  | some _ => throw .keyNotString

/-- Where in its containers, the innermost first, the reader stands. -/
inductive Position where
  /-- A value has to follow. -/
  | beforeValue
  /-- A container was opened. -/
  | opened
  /-- A value has ended. -/
  | afterValue
  deriving DecidableEq, Repr

/-- Passes over what is left of a value when these containers are open. The fuel bounds the number
of steps. -/
def skipFrom : Nat → Position → List Container → Reader Unit
  | 0, _, _ => throw (.endOfText .value)
  | fuel + 1, .beforeValue, stack => do
    match ← peekSolid with
    | some '[' => drop; skipFrom fuel .opened (.list :: stack)
    | some '\x7b' => drop; skipFrom fuel .opened (.object :: stack)
    | _ => skipScalar; skipFrom fuel .afterValue stack
  | _ + 1, _, [] => pure ()
  | fuel + 1, position, container :: stack => do
    let enter : Reader Unit := do
      if container = .object then skipName
      skipFrom fuel .beforeValue (container :: stack)
    match ← peekSolid with
    | none => throw (.endOfText container.unfinished)
    | some c =>
      if c = container.closing then
        drop
        skipFrom fuel .afterValue stack
      else if position = .opened then enter
      else if c = ',' then
        drop
        enter
      else throw container.expectedSeparator

/-- Passes over a value. -/
def skipValue : Reader Unit := do
  skipFrom (2 * (← remaining) + 2) .beforeValue []

/-! ## Whole texts -/

/-- Reads a text that holds one thing and nothing behind it. -/
def whole {α : Type} (reader : Reader α) (t : Text) : Except Fault α := do
  let (a, rest) ← reader t
  if (rest.dropWhile isBlank).isEmpty then pure a else throw .trailingCharacters

end Reader

/-- The value of a JSON text. -/
def parse (text : String) : Except Fault Json :=
  Reader.whole (Reader.value Reader.depthLimit) text.toList

end BytecodeParity.Json
