import BytecodeParity.Numeral
/-!
# Percent form

What may not stand in a part of an address is written as its bytes, each as a percent sign and two
hexadecimal digits. Each part of an address has its own set of characters that may not stand in it;
controls and all characters beyond ASCII are in every one of them.
-/

namespace BytecodeParity.Http.Percent

/-! ## Writing -/

/-- A hexadecimal digit, letters being capitals. -/
def digit (n : Nat) : Char := Char.ofNat (if n < 10 then 0x30 + n else 0x37 + n)

/-- A byte as a percent sign and two digits. -/
def writeByte (b : UInt8) : Text := ['%', digit (b.toNat / 16), digit (b.toNat % 16)]

/-- Whether a character is in percent form everywhere. -/
def isForeign (c : Char) : Bool := c.toNat < 0x20 || 0x7E < c.toNat

/-- The text with the characters for which `reserved` holds, and the foreign ones, in percent
form. -/
def encode (reserved : Char → Bool) (t : Text) : Text :=
  t.flatMap fun c =>
    if isForeign c || reserved c then (String.utf8EncodeChar c).flatMap writeByte else [c]

/-! ## What is reserved -/

/-- In a host or a path that is kept as it comes, only the foreign characters may not stand. -/
def inOpaque (_ : Char) : Bool := false

/-- The characters that may not stand in a fragment. -/
def inFragment (c : Char) : Bool :=
  c == ' ' || c == '"' || c == '<' || c == '>' || c.toNat == 0x60

/-- The characters that may not stand in a step of a path. -/
def inPath (c : Char) : Bool :=
  inFragment c || c == '#' || c == '?' || c == '\x7b' || c == '\x7d'

/-- The characters that may not stand in a name or a password. -/
def inCredentials (c : Char) : Bool :=
  inPath c || c == '/' || c == ':' || c == ';' || c == '=' || c == '@' || c == '[' || c == '\\' ||
    c == ']' || c == '^' || c == '|'

/-- The characters that may not stand in a query. -/
def inQuery (c : Char) : Bool := c == ' ' || c == '"' || c == '#' || c == '<' || c == '>'

/-- The characters that may not stand in a query of a special scheme. -/
def inSpecialQuery (c : Char) : Bool := inQuery c || c == '\x27'

/-! ## Reading -/

/-- The bytes of a text in which characters may be in percent form. A percent sign without two
digits stands for itself. -/
def decode : Text → List UInt8
  | [] => []
  | '%' :: a :: b :: t =>
    match Numeral.digitValue? 16 a, Numeral.digitValue? 16 b with
    | some x, some y => UInt8.ofNat (16 * x + y) :: decode t
    | _, _ => 0x25 :: decode (a :: b :: t)
  | c :: t => String.utf8EncodeChar c ++ decode t

/-- The text that bytes encode. -/
def text? (bytes : List UInt8) : Option Text :=
  (String.fromUTF8? ⟨bytes.toArray⟩).map String.toList

end BytecodeParity.Http.Percent
