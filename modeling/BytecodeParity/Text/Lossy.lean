import BytecodeParity.Text.Basic
/-!
# Bytes shown as text

Code is cut every two bytes, also inside a character. What such a pair of bytes shows is the text
it encodes, with the replacement character for each longest run of bytes that begins a character
without completing it and for each byte that begins none.
-/

namespace BytecodeParity.Text

/-- The character that stands for bytes that encode none. -/
def replacement : Char := Char.ofNat 0xFFFD

/-- Whether a byte continues a character. -/
def isContinuation (b : UInt8) : Bool := 0x80 ≤ b && b ≤ 0xBF

/-- Whether two bytes are a character of two bytes. -/
def encodesPair (a b : UInt8) : Bool := 0xC2 ≤ a && a ≤ 0xDF && isContinuation b

/-- Whether two bytes begin a character of three or four bytes. -/
def beginsLonger (a b : UInt8) : Bool :=
  (a == 0xE0 && 0xA0 ≤ b && b ≤ 0xBF) || (a == 0xED && 0x80 ≤ b && b ≤ 0x9F) ||
  (0xE1 ≤ a && a ≤ 0xEF && a != 0xED && isContinuation b) ||
  (a == 0xF0 && 0x90 ≤ b && b ≤ 0xBF) || (0xF1 ≤ a && a ≤ 0xF3 && isContinuation b) ||
  (a == 0xF4 && 0x80 ≤ b && b ≤ 0x8F)

/-- What a byte by itself shows. -/
def showByte (b : UInt8) : Char := if b < 0x80 then Char.ofNat b.toNat else replacement

/-- What two neighbouring bytes show. -/
def showPair (a b : UInt8) : Text :=
  if encodesPair a b then [Char.ofNat ((a.toNat - 0xC0) * 0x40 + (b.toNat - 0x80))]
  else if beginsLonger a b then [replacement]
  else [showByte a, showByte b]

/-- The bytes two by two, each pair as it shows; an odd last byte stands alone. -/
def pairs : List UInt8 → List Text
  | [] => []
  | [b] => [[showByte b]]
  | a :: b :: rest => showPair a b :: pairs rest

end BytecodeParity.Text
