import BytecodeParity.Text.Basic
import BytecodeParity.Text.Printable
/-!
# Quoted text

How messages show a piece of text: in quotes, with what does not show itself written as an escape.
A text in double quotes escapes the double quote only, a character in single quotes the single
quote only; both escape the backslash, and both spell what is not printable, or would be drawn
onto the character before it, as `\u{…}` with the code point in hexadecimal.
-/

namespace BytecodeParity.Text

/-- The digits of a number in base sixteen, small letters, no leading zeros. -/
def hexDigits (n : Nat) : Text := Nat.toDigits 16 n

/-- How a character stands between quotes of the kind `quote`. -/
def escapeFor (quote c : Char) : Text :=
  if c = '\x00' then ['\\', '0']
  else if c = '\t' then ['\\', 't']
  else if c = '\r' then ['\\', 'r']
  else if c = '\n' then ['\\', 'n']
  else if c = quote || c = '\\' then ['\\', c]
  else if extendsGrapheme c || !isPrintable c then
    ['\\', 'u', '\x7b'] ++ hexDigits c.toNat ++ ['\x7d']
  else [c]

/-- The text in double quotes. -/
def quoted (t : Text) : Text := ['"'] ++ t.flatMap (escapeFor '"') ++ ['"']

/-- The character in single quotes. -/
def quotedChar (c : Char) : Text := ['\x27'] ++ escapeFor '\x27' c ++ ['\x27']

end BytecodeParity.Text
