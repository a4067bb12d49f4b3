import BytecodeParity.Files.Tree
import BytecodeParity.Text.Alphanumeric
import BytecodeParity.Text.Basic
/-!
# Environment variables

The variables that a run sees, and the file `.env` that can add to them. A variable that is set
already keeps its value. The lines of the file are read up to the first one that is malformed.
-/

namespace BytecodeParity

/-- The variables set, by name. -/
abbrev Environment := OrderedMap String String

namespace Environment

/-- The value of a variable. -/
def get? (env : Environment) (name : String) : Option String := OrderedMap.find? name env

/-- The home directory. -/
def home? (env : Environment) : Option String := (env.get? "HOME").filter fun h => h != ""

/-- Sets a variable unless it is set already. -/
def setDefault (env : Environment) (name value : String) : Environment :=
  match env.get? name with
  | some _ => env
  | none => OrderedMap.insert name value env

/-! ## Values in a file

A value ends at a blank, behind which only a comment may follow. Quotes keep blanks, single ones
keep everything; outside of those a backslash takes the next character literally and a dollar sign
inserts the value of a variable. -/

/-- How the name of a variable to be inserted is written. -/
inductive Insertion where
  /-- Letters and numbers behind the dollar sign. -/
  | bare
  /-- Anything between braces. -/
  | braced
  deriving DecidableEq, Repr

/-- Where in a value the reader stands. -/
inductive Mode where
  | plain
  | singleQuoted
  | doubleQuoted
  /-- A backslash was met, within double quotes or not. -/
  | escaped (quoted : Bool)
  /-- A dollar sign was met; `name` has been read, last character first. -/
  | inserting (kind : Insertion) (quoted : Bool) (name : Text)
  /-- The value has ended. -/
  | ended
  deriving DecidableEq, Repr

/-- The mode behind an escape or an insertion. -/
def Mode.resumed (quoted : Bool) : Mode := if quoted then .doubleQuoted else .plain

/-- The characters that an escape stands for. -/
def escaped? (c : Char) : Option Char :=
  if c = 'n' then some '\n'
  else if c = '\\' || c = '\x27' || c = '"' || c = '$' || c = ' ' then some c
  else none

/-- Reads on in a value. `lookUp` gives the values of variables, `read` holds what was read, last
character first. -/
def valueFrom (lookUp : String → String) (read : Text) (mode : Mode) : Text → Option Text
  | [] =>
    match mode with
    | .plain => some read.reverse
    | .ended => some read.reverse
    | .escaped false => some read.reverse
    | .inserting .bare false name =>
      some (read.reverse ++ (lookUp (String.ofList name.reverse)).toList)
    | _ => none
  | c :: t =>
    match mode with
    | .ended =>
      if c = ' ' || c = '\t' then valueFrom lookUp read .ended t
      else if c = '#' then some read.reverse
      else none
    | .escaped quoted => do valueFrom lookUp ((← escaped? c) :: read) (.resumed quoted) t
    | .singleQuoted =>
      if c = '\x27' then valueFrom lookUp read .plain t
      else valueFrom lookUp (c :: read) .singleQuoted t
    | .inserting kind quoted name =>
      let inserted := (lookUp (String.ofList name.reverse)).toList.reverse ++ read
      if Text.isAlphanumeric c then valueFrom lookUp read (.inserting kind quoted (c :: name)) t
      else
        match kind with
        | .bare =>
          if c = '\x7b' && name.isEmpty then valueFrom lookUp read (.inserting .braced quoted []) t
          else if c = '$' then valueFrom lookUp inserted (.inserting .bare quoted []) t
          else valueFrom lookUp (c :: inserted) (.resumed quoted) t
        | .braced =>
          if c = '\x7d' then valueFrom lookUp inserted (.resumed quoted) t
          else valueFrom lookUp read (.inserting .braced quoted (c :: name)) t
    | .doubleQuoted =>
      if c = '$' then valueFrom lookUp read (.inserting .bare true []) t
      else if c = '"' then valueFrom lookUp read .plain t
      else if c = '\\' then valueFrom lookUp read (.escaped true) t
      else valueFrom lookUp (c :: read) .doubleQuoted t
    | .plain =>
      if c = '$' then valueFrom lookUp read (.inserting .bare false []) t
      else if c = '\x27' then valueFrom lookUp read .singleQuoted t
      else if c = '"' then valueFrom lookUp read .doubleQuoted t
      else if c = '\\' then valueFrom lookUp read (.escaped false) t
      else if c = ' ' || c = '\t' then valueFrom lookUp read .ended t
      else valueFrom lookUp (c :: read) .plain t

/-! ## Lines -/

/-- Takes the name of a variable off a line. -/
def takeName? (t : Text) : Option (String × Text) :=
  let inName (c : Char) : Bool := c.isAlphanum || c == '_' || c == '.'
  match t with
  | c :: _ =>
    if c.isAlpha || c == '_' then some (String.ofList (t.takeWhile inName), t.dropWhile inName)
    else none
  | [] => none

/-- Takes an equals sign off a line. -/
def takeEquals? : Text → Option Text
  | '=' :: t => some t
  | _ => none

/-- What a line says: nothing if it is blank or a comment, else a variable and its value. There is
no answer to a malformed line. -/
def readLine? (lookUp : String → String) (line : Text) : Option (Option (String × String)) :=
  let afterBlanks (t : Text) : Text := t.dropWhile Text.isBlank
  match Text.trim line with
  | [] => some none
  | '#' :: _ => some none
  | t => do
    let (first, t) ← takeName? t
    let (name, t) ←
      match takeEquals? (afterBlanks t) with
      | some t => some (first, t)
      | none =>
        if first = "export" then do
          let (name, t) ← takeName? (afterBlanks t)
          some (name, ← takeEquals? (afterBlanks t))
        else none
    match afterBlanks t with
    | [] => some (some (name, ""))
    | '#' :: _ => some (some (name, ""))
    | t => do some (some (name, String.ofList (← valueFrom lookUp [] .plain t)))

/-- Adds what the lines say. The lines behind one know its variable. -/
def addLines (env : Environment) : List Text → Environment
  | [] => env
  | line :: rest =>
    match readLine? (fun name => (env.get? name).getD "") line with
    | none => env
    | some none => addLines env rest
    | some (some (name, value)) => addLines (env.setDefault name value) rest

/-! ## The file -/

/-- The content of the file `.env` in a directory or the nearest one above it that has one. -/
def nearestFile? (fs : Files.Tree) : Nat → List String → Option ByteArray
  | 0, _ => none
  | fuel + 1, place =>
    match fs.entry? (place ++ [".env"]) with
    | some (.file content) => some content
    | _ => if place.isEmpty then none else nearestFile? fs fuel place.dropLast

/-- The part of a content up to its first line that is no text. -/
def readableLines (content : ByteArray) : List Text :=
  match String.fromUTF8? content with
  | some text => Text.lines text.toList
  | none =>
    let parts := (content.toList.splitOn 10).map fun l => String.fromUTF8? ⟨l.toArray⟩
    (parts.takeWhile Option.isSome).filterMap fun p => p.map String.toList

/-- The environment with what the nearest file `.env` adds. -/
def load (fs : Files.Tree) (env : Environment) : Environment :=
  match nearestFile? fs (fs.workingDirectory.length + 1) fs.workingDirectory with
  | none => env
  | some content => addLines env (readableLines content)

end Environment

end BytecodeParity
