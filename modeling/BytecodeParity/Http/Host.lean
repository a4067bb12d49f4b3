import BytecodeParity.Http.DomainName
import BytecodeParity.Http.Percent
/-!
# Hosts

What an address names as the host: a domain name, or a number of four or of sixteen bytes. A name
whose last label is a number has to be a number as a whole. In addresses of schemes that are not
special any text will do for a name.
-/

namespace BytecodeParity.Http

/-- A host. -/
inductive Host where
  | name (text : Text)
  /-- A number of four bytes. -/
  | four (number : Nat)
  /-- A number of sixteen bytes, two by two. -/
  | sixteen (pieces : List Nat)
  deriving DecidableEq, Repr

namespace Host

/-- Why a text names no host. -/
inductive Fault where
  | empty
  /-- The text is no domain name. -/
  | notDomain
  | notFour
  | notSixteen
  /-- There is a character that ends or divides a host. -/
  | delimiter
  deriving DecidableEq, Repr

/-- The wording of a fault. -/
def Fault.message : Fault → String
  | .empty => "empty host"
  | .notDomain => "invalid international domain name"
  | .notFour => "invalid IPv4 address"
  | .notSixteen => "invalid IPv6 address"
  | .delimiter => "invalid domain character"

/-- The number that digits of a base denote. -/
def value? (base : Nat) (digits : Text) : Option Nat :=
  (digits.mapM (Numeral.digitValue? base)).map fun ds => ds.foldl (fun n d => base * n + d) 0

/-! ## Numbers of four bytes -/

/-- A number in one of three bases. One digit zero leads the octal ones, and with the letter X the
hexadecimal ones, where no further digit means zero. -/
def readNumber? : Text → Option Nat
  | [] => none
  | '0' :: 'x' :: digits => value? 16 digits
  | '0' :: 'X' :: digits => value? 16 digits
  | '0' :: c :: digits => value? 8 (c :: digits)
  | digits => value? 10 digits

/-- The parts of a name, without an empty one at the end. -/
def numberParts (t : Text) : List Text :=
  let parts := t.splitOn '.'
  if parts.getLast? = some [] then parts.dropLast else parts

/-- Whether the last part of a name is a number, or was meant to be one. -/
def endsInNumber (t : Text) : Bool :=
  match (numberParts t).getLast? with
  | none => false
  | some part => (!part.isEmpty && part.all Char.isDigit) || (readNumber? part).isSome

/-- The number of four bytes that up to four numbers make up. All but the last are a byte each; the
last one fills the bytes that are left. -/
def assemble? (numbers : List Nat) : Option Nat := do
  let last ← numbers.getLast?
  let front := numbers.dropLast
  if front.length ≤ 3 && front.all (· < 256) && last < Nat.pow 256 (4 - front.length) then
    some (front.foldl (fun n b => 256 * n + b) 0 * Nat.pow 256 (4 - front.length) + last)
  else none

/-- The bytes of a number of four, first one first. -/
def bytes (number : Nat) : List Nat :=
  [number / 0x1000000, number / 0x10000 % 256, number / 0x100 % 256, number % 256]

/-! ## Numbers of sixteen bytes -/

/-- A part of up to four hexadecimal digits. -/
def readPiece? (t : Text) : Option Nat :=
  if t.isEmpty || 4 < t.length then none else value? 16 t

/-- A byte in decimal digits, without a zero in front. -/
def readByte? (t : Text) : Option Nat :=
  match t with
  | [] => none
  | ['0'] => some 0
  | '0' :: _ => none
  | _ => (value? 10 t).filter (· < 256)

/-- Four bytes between dots, two by two. -/
def readTail? (t : Text) : Option (List Nat) := do
  match ← (t.splitOn '.').mapM readByte? with
  | [a, b, c, d] => some [256 * a + b, 256 * c + d]
  | _ => none

/-- The pieces of parts, the last of which may be four bytes between dots. -/
def readPieces? : List Text → Option (List Nat)
  | [] => some []
  | [t] => if t.contains '.' then readTail? t else (readPiece? t).map fun n => [n]
  | t :: ts => do some ((← readPiece? t) :: (← readPieces? ts))

/-- Cuts a text at the first double colon. -/
def cutAtGap : Text → Option (Text × Text)
  | ':' :: ':' :: t => some ([], t)
  | c :: t => (cutAtGap t).map fun (a, b) => (c :: a, b)
  | [] => none

/-- The pieces of a text between colons. -/
def readRun? (t : Text) : Option (List Nat) :=
  if t.isEmpty then some [] else readPieces? (t.splitOn ':')

/-- Reads a number of sixteen bytes. A gap stands for at least one piece, and no bytes between dots
come before it. -/
def readSixteen? (t : Text) : Option (List Nat) := do
  match cutAtGap t with
  | none =>
    let pieces ← readRun? t
    if pieces.length = 8 then some pieces else none
  | some (front, back) =>
    let front ← if front.contains '.' then none else readRun? front
    let back ← readRun? back
    let known := front.length + back.length
    if known ≤ 7 then some (front ++ List.replicate (8 - known) 0 ++ back) else none

/-- Where the first of the longest runs of two and more zeros begins, and how long it is. -/
def gap? (pieces : List Nat) : Option (Nat × Nat) :=
  let runs := (List.range pieces.length).map fun i =>
    (i, ((pieces.drop i).takeWhile (· == 0)).length)
  let longest := runs.foldl (fun best run => if best.2 < run.2 then run else best) (0, 0)
  if longest.2 < 2 then none else some longest

/-- Pieces in hexadecimal digits between colons. -/
def writePieces (pieces : List Nat) : Text := [':'].intercalate (pieces.map (Nat.toDigits 16))

/-! ## Hosts as texts -/

/-- A host as it stands in an address. -/
def text : Host → Text
  | name t => t
  | four number => ['.'].intercalate ((bytes number).map (Nat.toDigits 10))
  | sixteen pieces =>
    let inner :=
      match gap? pieces with
      | none => writePieces pieces
      | some (start, length) =>
        writePieces (pieces.take start) ++ [':', ':'] ++ writePieces (pieces.drop (start + length))
    '[' :: inner ++ [']']

/-- Reads what stands behind an opening bracket. -/
def readBracketed (t : Text) : Except Fault Host :=
  if t.getLast? = some ']' then
    match readSixteen? t.dropLast with
    | some pieces => .ok (.sixteen pieces)
    | none => .error .notSixteen
  else .error .notSixteen

/-- Reads the host of a special scheme. -/
def read : Text → Except Fault Host
  | '[' :: t => readBracketed t
  | t => do
    match (Percent.text? (Percent.decode t)).bind DomainName.toAscii? with
    | none => .error .notDomain
    | some domain =>
      if domain.isEmpty then .error .empty
      else if endsInNumber domain then
        match ((numberParts domain).mapM readNumber?).bind assemble? with
        | some number => .ok (.four number)
        | none => .error .notFour
      else .ok (.name domain)

/-- Whether a character may not stand in a host of any scheme. -/
def isDelimiter (c : Char) : Bool :=
  c.toNat == 0 || c == '\t' || c == '\n' || c == '\x0d' || c == ' ' || c == '#' || c == '/' ||
    c == ':' || c == '<' || c == '>' || c == '?' || c == '@' || c == '[' || c == '\\' || c == ']' ||
    c == '^' || c == '|'

/-- Reads the host of a scheme that is not special. -/
def readOpaque : Text → Except Fault Host
  | '[' :: t => readBracketed t
  | t =>
    if t.any isDelimiter then .error .delimiter
    else .ok (.name (Percent.encode Percent.inOpaque t))

end Host

end BytecodeParity.Http
