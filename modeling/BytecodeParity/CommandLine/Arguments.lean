import BytecodeParity.OrderedMap
import BytecodeParity.Report.Style
import BytecodeParity.Text.EscapeCodes
/-!
# Arguments

Reading a list of arguments against a grammar of options. An option is only taken up when it is
known what comes after it, so of two faults that of the earlier argument is the one reported, and
an unknown argument goes before a fault of the one in front of it.
-/

namespace BytecodeParity.Arguments

/-! ## Grammars -/

/-- Why a value is refused. -/
inductive ValueFault where
  /-- It is empty where something has to be given. -/
  | missing
  /-- It is none of the values possible. -/
  | unknown
  | rejected (reason : String)
  deriving DecidableEq, Repr

/-- What a parameter is for. -/
inductive Action where
  /-- It takes a value, which a check may refuse. -/
  | value (check : String → Option ValueFault)
  /-- It is given or not. -/
  | flag
  /-- It counts how often it is given. -/
  | count
  | help
  | version

/-- Something that can be given on the command line. -/
structure Parameter where
  name : String
  /-- How messages show it. -/
  display : String
  /-- The name behind two dashes, if it is an option. -/
  long : Option String
  /-- The letter behind one dash. -/
  short : Option Char
  action : Action
  required : Bool

/-- What arguments may follow a command. -/
structure Grammar where
  options : List Parameter
  positional : Option Parameter
  /-- The commands that may follow, that for help left out. -/
  commands : List String

/-- The option that asks for help, which every grammar has. -/
def helpOption : Parameter := ⟨"help", "--help", some "help", some 'h', .help, false⟩

/-- The option that asks for the version. -/
def versionOption : Parameter := ⟨"version", "--version", some "version", some 'V', .version, false⟩

namespace Grammar

/-- The option of a long name. -/
def byLong? (g : Grammar) (name : String) : Option Parameter :=
  g.options.find? fun p => p.long == some name

/-- The option of a letter. -/
def byShort? (g : Grammar) (c : Char) : Option Parameter :=
  g.options.find? fun p => p.short == some c

/-- Whether a word is a command. There is one for help wherever there are commands. -/
def isCommand (g : Grammar) (word : String) : Bool :=
  !g.commands.isEmpty && (word == "help" || g.commands.contains word)

end Grammar

/-! ## Faults -/

/-- Why arguments are refused. Parameters are given as messages show them. -/
inductive Fault where
  | unknownArgument (argument : String)
  | unknownCommand (word : String)
  | missingValue (parameter : String)
  | unknownValue (value parameter : String)
  | rejectedValue (value parameter reason : String)
  /-- A flag was given with a value. -/
  | unneededValue (value parameter : String)
  | repeated (parameter : String)
  | missingArguments
  deriving DecidableEq, Repr

/-- A piece of a message, which may be set off. -/
inductive Piece where
  | plain (text : String)
  /-- What is wrong. -/
  | wrong (text : String)
  /-- The parameter it concerns. -/
  | literal (text : String)
  deriving DecidableEq, Repr

/-- A piece as it is printed in colours. -/
def Piece.print : Piece → String
  | plain t => t
  | wrong t => Style.start Style.yellow.code ++ t ++ Style.reset
  | literal t => Style.start Style.bold.code ++ t ++ Style.reset

/-- The wording of a fault. -/
def Fault.pieces : Fault → List Piece
  | unknownArgument a => [.plain "unexpected argument '", .wrong a, .plain "' found"]
  | unknownCommand w => [.plain "unrecognized subcommand '", .wrong w, .plain "'"]
  | missingValue p =>
    [.plain "a value is required for '", .wrong p, .plain "' but none was supplied"]
  | unknownValue v p =>
    [.plain "invalid value '", .wrong v, .plain "' for '", .literal p, .plain "'"]
  | rejectedValue v p r =>
    [.plain "invalid value '", .wrong v, .plain "' for '", .literal p, .plain ("': " ++ r)]
  | unneededValue v p =>
    [ .plain "unexpected value '", .wrong v, .plain "' for '", .literal p,
      .plain "' found; no more were expected" ]
  | repeated p => [.plain "the argument '", .wrong p, .plain "' cannot be used multiple times"]
  | missingArguments => [.plain "the following required arguments were not provided:"]

/-- The message about a fault in colours, with the advice where to read more. -/
def Fault.styled (f : Fault) : String :=
  let pieces :=
    f.pieces ++ [.plain "\n\nFor more information, try '", .literal "--help", .plain "'.\n"]
  Style.start Style.bold.code ++ Style.start Style.red.code ++ "error:" ++ Style.reset ++ " " ++
    String.join (pieces.map Piece.print)

/-- The message about a fault. Without colours all codes are taken out, those too that an argument
brought in. -/
def Fault.print (colours : Bool) (f : Fault) : String :=
  if colours then f.styled else String.ofList (Text.withoutCodes f.styled.toList)

/-- Why reading arguments comes to an early end. -/
inductive Stop where
  | fault (fault : Fault)
  /-- Help was asked for. -/
  | help
  /-- The version was asked for. -/
  | version
  deriving DecidableEq, Repr

/-! ## Reading -/

/-- What was given for each parameter, by its name: its value, or how often it was given. -/
abbrev Given := OrderedMap String String

/-- How far reading has come. -/
structure Progress where
  given : Given
  /-- A parameter met but not taken up yet, and its value if that was met. -/
  pending : Option (Parameter × Option String)

/-- Nothing was read yet. -/
def Progress.start : Progress := ⟨[], none⟩

/-- How often a counting parameter was given. -/
def countOf (given : Given) (name : String) : Nat :=
  ((OrderedMap.find? name given).bind fun t => t.toNat?).getD 0

/-- Takes up a parameter with the value it was given. -/
def takeUp (given : Given) (p : Parameter) (value : Option String) : Except Stop Given :=
  let isRepeated := (OrderedMap.find? p.name given).isSome
  match p.action, value with
  | .help, _ => .error .help
  | .version, _ => .error .version
  | .count, _ => .ok (OrderedMap.insert p.name (toString (countOf given p.name + 1)) given)
  | .flag, _ =>
    if isRepeated then .error (.fault (.repeated p.display))
    else .ok (OrderedMap.insert p.name "true" given)
  | .value _, none => .error (.fault (.missingValue p.display))
  | .value check, some v =>
    if isRepeated then .error (.fault (.repeated p.display))
    else
      match check v with
      | none => .ok (OrderedMap.insert p.name v given)
      | some .missing => .error (.fault (.missingValue p.display))
      | some .unknown => .error (.fault (.unknownValue v p.display))
      | some (.rejected reason) => .error (.fault (.rejectedValue v p.display reason))

/-- Takes up what is pending. -/
def Progress.settle (progress : Progress) : Except Stop Given :=
  match progress.pending with
  | none => .ok progress.given
  | some (p, value) => takeUp progress.given p value

/-- Meets a parameter that takes no value. -/
def Progress.meetFlag (progress : Progress) (p : Parameter) : Except Stop Progress := do
  .ok ⟨← takeUp (← progress.settle) p none, none⟩

/-- Meets a parameter that takes a value, which may be attached to it. -/
def Progress.meetOption (progress : Progress) (p : Parameter) (attached : Option String) :
    Except Stop Progress := do
  let given ← progress.settle
  match attached with
  | none => .ok ⟨given, some (p, none)⟩
  | some v => .ok ⟨← takeUp given p (some v), none⟩

/-- Whether a parameter takes a value. -/
def Parameter.takesValue (p : Parameter) : Bool :=
  match p.action with
  | .value _ => true
  | _ => false

/-- Reads the argument behind two dashes. -/
def readLong (g : Grammar) (progress : Progress) (t : Text) : Except Stop Progress :=
  let name := String.ofList (t.takeWhile (· != '='))
  let attached :=
    match t.dropWhile (· != '=') with
    | [] => none
    | _ :: v => some (String.ofList v)
  match g.byLong? name with
  | none => .error (.fault (.unknownArgument ("--" ++ name)))
  | some p =>
    if p.takesValue then progress.meetOption p attached
    else
      match attached with
      | some v => .error (.fault (.unneededValue v p.display))
      | none => progress.meetFlag p

/-- Reads the letters behind one dash. A letter that takes a value takes all that is left, without
an equals sign in front of it. -/
def readShort (g : Grammar) (progress : Progress) : Text → Except Stop Progress
  | [] => .ok progress
  | c :: t =>
    match g.byShort? c with
    | none => .error (.fault (.unknownArgument (String.ofList ['-', c])))
    | some p =>
      if p.takesValue then
        let attached :=
          match t with
          | [] => none
          | '=' :: v => some (String.ofList v)
          | v => some (String.ofList v)
        progress.meetOption p attached
      else do readShort g (← progress.meetFlag p) t

/-- What a word is that fits nowhere. -/
def strayFault (g : Grammar) (trailing : Bool) (word : String) : Fault :=
  if trailing && g.isCommand word then .unknownArgument word
  else if !g.commands.isEmpty then .unknownCommand word
  else .unknownArgument word

/-- Reads a word that is no option. It may be the positional parameter. -/
def readWord (g : Grammar) (trailing positionalGiven : Bool) (progress : Progress)
    (word : String) : Except Stop Progress :=
  match g.positional with
  | some p =>
    if positionalGiven then .error (.fault (strayFault g trailing word))
    else do .ok ⟨← progress.settle, some (p, some word)⟩
  | none => .error (.fault (strayFault g trailing word))

/-- What arguments amount to: what was given, and the command met with the arguments behind it. -/
structure Reading where
  progress : Progress
  command : Option (String × List String)

/-- Reads arguments one by one, up to a command. Behind two bare dashes nothing is an option. -/
def readFrom (g : Grammar) (trailing positionalGiven : Bool) (progress : Progress) :
    List String → Except Stop Reading
  | [] => .ok ⟨progress, none⟩
  | word :: rest =>
    let awaited :=
      match progress.pending with
      | some (p, none) => some p
      | _ => none
    let asWord : Except Stop Reading := do
      readFrom g trailing true (← readWord g trailing positionalGiven progress word) rest
    if trailing then asWord
    else if awaited.isNone && g.isCommand word then .ok ⟨progress, some (word, rest)⟩
    else
      match word.toList with
      | ['-', '-'] => readFrom g true positionalGiven progress rest
      | '-' :: '-' :: t => do
        readFrom g trailing positionalGiven (← readLong g progress t) rest
      | '-' :: c :: t => do
        readFrom g trailing positionalGiven (← readShort g progress (c :: t)) rest
      | _ =>
        match awaited with
        | some p =>
          readFrom g trailing positionalGiven { progress with pending := some (p, some word) } rest
        | none => asWord

/-- Takes up the last parameter and looks whether all that is required was given. -/
def finish (g : Grammar) (progress : Progress) : Except Stop Given := do
  let given ← progress.settle
  if g.options.any fun p => p.required && (OrderedMap.find? p.name given).isNone then
    .error (.fault .missingArguments)
  else .ok given

/-- Reads all arguments behind a command that has none below it. -/
def read (g : Grammar) (arguments : List String) : Except Stop Given := do
  let reading ← readFrom g false false .start arguments
  finish g reading.progress

/-- Reads the words behind the command for help. -/
def readHelp (g : Grammar) : List String → Stop
  | [] => .help
  | word :: rest =>
    if !g.isCommand word then .fault (.unknownCommand word)
    else
      match rest with
      | [] => .help
      | next :: _ => .fault (.unknownCommand next)

/-- Reads arguments among which there may be a command. The arguments of the command are read
before the last parameter in front of it is taken up. -/
def readWithCommands (g : Grammar) (below : String → Grammar) (arguments : List String) :
    Except Stop (Given × Option (String × Given)) := do
  let reading ← readFrom g false false .start arguments
  match reading.command with
  | none => .ok (← finish g reading.progress, none)
  | some (command, rest) =>
    if command = "help" then .error (readHelp g rest)
    else
      let given ← read (below command) rest
      .ok (← finish g reading.progress, some (command, given))

end BytecodeParity.Arguments
