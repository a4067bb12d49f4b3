import BytecodeParity.Text.Basic
/-!
# Codes for terminals

A stream that is no terminal gets text without the codes that a terminal obeys. A code begins with
an escape character; what follows tells how far it goes. Controls go too, but for those that are
blanks. A blank within a code is shown, and after it text is shown again, though when the next
control comes the code is taken up where it was left, unless a character beyond ASCII came before.
-/

namespace BytecodeParity.Text

/-- Where in a code a character stands. -/
inductive CodePosition where
  /-- In front of any code. -/
  | ground
  /-- Behind the escape character. -/
  | escape
  | escapeIntermediate
  /-- At the start of a control sequence. -/
  | sequenceEntry
  | sequenceParameter
  | sequenceIntermediate
  | sequenceIgnored
  /-- At the start of a device control string. -/
  | deviceEntry
  | deviceParameter
  | deviceIntermediate
  | devicePassed
  | deviceIgnored
  /-- In a command for the operating system. -/
  | systemCommand
  /-- In a string that means nothing. -/
  | foreignString
  deriving DecidableEq, Repr

namespace CodePosition

/-- Whether controls are still obeyed at a position. -/
def obeysControls : CodePosition → Bool
  | ground | escape | escapeIntermediate => true
  | sequenceEntry | sequenceParameter | sequenceIntermediate | sequenceIgnored => true
  | _ => false

/-- Whether the byte for the end of a string ends the code, even as part of a character. -/
def endsAtTerminator : CodePosition → Bool
  | devicePassed | deviceIgnored | foreignString => true
  | _ => false

/-- The position behind an ASCII character that is no control, at a position within a code. -/
def next (p : CodePosition) (n : Nat) : CodePosition :=
  let isIntermediate := 0x20 ≤ n && n ≤ 0x2F
  let isParameter := 0x30 ≤ n && n ≤ 0x3B
  let isPrivate := 0x3C ≤ n && n ≤ 0x3F
  match p with
  | ground => ground
  | escape =>
    if isIntermediate then escapeIntermediate
    else if n = 0x5B then sequenceEntry
    else if n = 0x5D then systemCommand
    else if n = 0x50 then deviceEntry
    else if n = 0x58 || n = 0x5E || n = 0x5F then foreignString
    else ground
  | escapeIntermediate => if isIntermediate then escapeIntermediate else ground
  | sequenceEntry =>
    if isIntermediate then sequenceIntermediate
    else if isParameter || isPrivate then sequenceParameter
    else ground
  | sequenceParameter =>
    if isIntermediate then sequenceIntermediate
    else if isParameter then sequenceParameter
    else if isPrivate then sequenceIgnored
    else ground
  | sequenceIntermediate =>
    if isIntermediate then sequenceIntermediate
    else if isParameter || isPrivate then sequenceIgnored
    else ground
  | sequenceIgnored =>
    if isIntermediate || isParameter || isPrivate then sequenceIgnored else ground
  | deviceEntry =>
    if isIntermediate then deviceIntermediate
    else if isParameter || isPrivate then deviceParameter
    else devicePassed
  | deviceParameter =>
    if isIntermediate then deviceIntermediate
    else if isParameter then deviceParameter
    else if isPrivate then deviceIgnored
    else devicePassed
  | deviceIntermediate =>
    if isIntermediate then deviceIntermediate
    else if isParameter || isPrivate then deviceIgnored
    else devicePassed
  | p => p

end CodePosition

/-- The blanks of ASCII. -/
def isPlainBlank (c : Char) : Bool :=
  c == ' ' || c == '\t' || c == '\n' || c == '\x0c' || c == '\x0d'

/-- Whether a character is shown in front of any code. -/
def isShown (c : Char) : Bool :=
  0x80 ≤ c.toNat || (0x20 ≤ c.toNat && c.toNat < 0x7F) || isPlainBlank c

/-- The position behind a character at a position, and whether the character is shown. -/
def passCode (p : CodePosition) (c : Char) : CodePosition × Bool :=
  let n := c.toNat
  if n = 0x1B then (.escape, false)
  else if n = 0x18 || n = 0x1A then (.ground, false)
  else if 0x80 ≤ n then
    if p = .ground then (.ground, true)
    else if p.endsAtTerminator && (String.utf8EncodeChar c).contains 0x9C then (.ground, false)
    else (p, false)
  else if n < 0x20 then
    if p = .systemCommand && n = 7 then (.ground, false)
    else (p, p.obeysControls && isPlainBlank c)
  else if n = 0x7F then (p, false)
  else (p.next n, p = .ground)

/-- Takes codes out of a text from a position on. While `showing`, text is shown whatever the
position was. -/
def withoutCodesFrom (p : CodePosition) (showing : Bool) : Text → Text
  | [] => []
  | c :: t =>
    if showing && isShown c then
      c :: withoutCodesFrom (if 0x80 ≤ c.toNat then .ground else p) true t
    else
      let passed := passCode p c
      if passed.2 then
        c :: withoutCodesFrom (if 0x80 ≤ c.toNat then .ground else passed.1) true t
      else withoutCodesFrom passed.1 false t

/-- The text without codes and controls. -/
def withoutCodes (t : Text) : Text := withoutCodesFrom .ground false t

end BytecodeParity.Text
