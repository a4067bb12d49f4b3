import BytecodeParity.Text.Basic
import BytecodeParity.Text.WidthTable
/-!
# Display width

How many columns text takes in print. East Asian wide characters take two columns; marks that join
the character before and characters that are drawn nowhere take none; all others, controls
included, take one. A text can be narrower than its characters together, as some of them are drawn
as one: pictures that are joined or modified, and ligatures of a few scripts. What a character adds
depends on what stands behind it, so a text is measured from its end, and of what was passed only
that is kept which can matter to the characters in front of it.
-/

namespace BytecodeParity.Text

/-! ## Characters -/

/-- The columns that a character takes by itself. -/
def charWidth (c : Char) : Nat :=
  if c.toNat < 0xA0 then 1
  else if c.toNat = 0x17D8 then 3
  else if inRanges zeroWidthRanges c.toNat then 0
  else if inRanges wideRanges c.toNat then 2
  else 1

/-- Whether a character is a control, which has no width of its own outside of a text. -/
def isControl (c : Char) : Bool := c.toNat < 0x20 || (0x7F ≤ c.toNat && c.toNat < 0xA0)

/-- The mark that joins pictures or letters. -/
def zeroWidthJoiner : Nat := 0x200D

/-- Whether a code point is one of the indicators of which two name a region. -/
def isRegionIndicator (n : Nat) : Bool := 0x1F1E6 ≤ n && n ≤ 0x1F1FF

/-- Whether a code point modifies the skin colour of the picture before it. -/
def isSkinColour (n : Nat) : Bool := 0x1F3FB ≤ n && n ≤ 0x1F3FF

/-- Whether a code point is a mark that is drawn nowhere. -/
def isUnseenMark (n : Nat) : Bool :=
  n == 0x34F || (0x17B4 ≤ n && n ≤ 0x17B5) || (0x180B ≤ n && n ≤ 0x180D) || n == 0x180F ||
    (0xFE00 ≤ n && n ≤ 0xFE0F) || (0xE0100 ≤ n && n ≤ 0xE01EF)

/-- Whether a character lets an Arabic letter before it and one behind it join. -/
def isTransparent (c : Char) : Bool := charWidth c = 0 && !inRanges opaqueRanges c.toNat

/-- The Arabic letters that join an alef. -/
def isLam (n : Nat) : Bool :=
  n == 0x644 || (0x6B5 ≤ n && n ≤ 0x6B8) || n == 0x76A || n == 0x8A6 || n == 0x8C7

/-- The Arabic letters that join a lam. -/
def isAlef (n : Nat) : Bool :=
  inRanges [(0x622, 0x623), (0x625, 0x625), (0x627, 0x627), (0x671, 0x673), (0x675, 0x675),
    (0x773, 0x774), (0x870, 0x882)] n

/-- The Tifinagh consonants, of which two can join. -/
def isTifinagh (n : Nat) : Bool := (0x2D31 ≤ n && n ≤ 0x2D65) || n == 0x2D6F

/-- The Khmer letters that can be drawn below another. -/
def isKhmerSubscript (n : Nat) : Bool :=
  inRanges [(0x1780, 0x1782), (0x1784, 0x1787), (0x1789, 0x178C), (0x178E, 0x1793),
    (0x1795, 0x1798), (0x179B, 0x179D), (0x17A0, 0x17A0), (0x17A2, 0x17A2), (0x17A7, 0x17A7),
    (0x17AB, 0x17AC), (0x17AF, 0x17AF)] n

/-! ## What stands behind a character -/

/-- What the text behind a character begins with, as far as it matters. For letters whose ligatures
are asked for by a joiner, `joined` says whether there is one. -/
inductive Behind where
  | nothing
  | lineFeed
  | skinColour
  | indicator
  /-- Several indicators of regions. -/
  | indicators
  | picture
  /-- A joiner with a picture behind it. -/
  | joinedPicture
  /-- A mark that draws a key around a character, joined to a picture. -/
  | joinedKey
  | joinedIndicator
  | joinedIndicators (odd : Bool)
  /-- The end of a tag, joined to a picture. -/
  | tagEnd
  /-- The end of a tag with letters in front of it. -/
  | tagLetters (count : Nat)
  /-- The end of a tag with digits in front of it. -/
  | tagDigits (count : Nat)
  | alef
  | lamed (joined : Bool)
  | ya (joined : Bool)
  /-- The vowel i in front of a joined ya. -/
  | vowelAndYa
  | tifinagh (joined : Bool)
  /-- The mark that joins Tifinagh consonants, with one of them behind it. -/
  | joinedTifinagh
  /-- A tone of Lisu that can take another before it. -/
  | lisuTone
  | orkhon (joined : Bool)
  | khmerSubscript
  deriving DecidableEq, Repr

/-- What stands behind a character, and whether a selector of style comes first. -/
structure Context where
  behind : Behind
  /-- A selector of the picture style comes first. -/
  pictureStyle : Bool
  /-- A selector of the text style comes first. -/
  textStyle : Bool
  deriving DecidableEq, Repr

namespace Behind

/-- Whether it is part of a ligature. -/
def isLigature : Behind → Bool
  | alef | lamed _ | ya _ | vowelAndYa | tifinagh _ | joinedTifinagh | lisuTone | orkhon _ => true
  | khmerSubscript => true
  | _ => false

/-- Whether it waits for a picture that is joined to it. -/
def isJoined : Behind → Bool
  | joinedPicture | joinedKey => true
  | _ => false

/-- It as it is behind a joiner. -/
def join : Behind → Behind
  | lamed _ => lamed true
  | ya _ => ya true
  | tifinagh _ => tifinagh true
  | orkhon _ => orkhon true
  | b => b

/-- The context of no selector. -/
def alone (b : Behind) : Context := ⟨b, false, false⟩

/-- What a character begins that stands behind others. -/
def ofChar (c : Char) : Behind :=
  let n := c.toNat
  if isSkinColour n then skinColour
  else if isRegionIndicator n then indicator
  else if inRanges emojiRanges n then picture
  else if isAlef n then alef
  else if n = 0x5DC then lamed false
  else if n = 0x1A10 then ya false
  else if isTifinagh n then tifinagh false
  else if n = 0xA4FC || n = 0xA4FD then lisuTone
  else if n = 0x10C03 then orkhon false
  else if isKhmerSubscript n then khmerSubscript
  else nothing

end Behind

namespace Context

/-- The context at the end of a text. -/
def atEnd : Context := Behind.nothing.alone

/-- The context behind a selector of the picture style. -/
def selectPicture (x : Context) : Context :=
  if x.behind.isLigature || (x.behind.isJoined && !x.pictureStyle) then
    { x with pictureStyle := true }
  else ⟨.nothing, true, false⟩

/-- The context behind a selector of the text style. -/
def selectText (x : Context) : Context :=
  if x.behind.isLigature then { x with textStyle := true } else ⟨.nothing, false, true⟩

/-- The context without a selector of the picture style that selects nothing. -/
def dropPictureStyle (x : Context) : Context :=
  if x.behind.isLigature then { x with pictureStyle := false } else atEnd

end Context

/-! ## Measuring -/

/-- What a character adds that is not drawn by itself but with what stands behind it, and what then
stands behind the character before it. -/
def Behind.combine? (b : Behind) (c : Char) : Option (Int × Behind) :=
  let n := c.toNat
  let isDigitTag := 0xE0030 ≤ n && n ≤ 0xE0039
  let isLetterTag := 0xE0061 ≤ n && n ≤ 0xE007A
  let flag (b : Behind) : Option (Int × Behind) := if n = 0x1F3F4 then some (0, b) else none
  let joiner : Option (Int × Behind) :=
    if n = zeroWidthJoiner then some (0, .joinedPicture) else none
  match b with
  | .nothing => none
  | .lineFeed => none
  | .alef =>
    if isLam n then some (0, .nothing) else if isTransparent c then some (0, .alef) else none
  | .lamed joined => if joined && n = 0x5D0 then some (0, .nothing) else none
  | .khmerSubscript => if n = 0x17D2 then some (-1, .nothing) else none
  | .ya joined => if joined && n = 0x1A17 then some (0, .vowelAndYa) else none
  | .vowelAndYa => if n = 0x1A15 then some (0, .nothing) else none
  | .tifinagh joined =>
    if n = 0x2D7F then some (1, .joinedTifinagh)
    else if joined && isTifinagh n then some (0, .nothing)
    else none
  | .joinedTifinagh => if isTifinagh n then some (-1, .nothing) else none
  | .lisuTone => if 0xA4F8 ≤ n && n ≤ 0xA4FB then some (0, .nothing) else none
  | .orkhon joined => if joined && n = 0x10C32 then some (0, .nothing) else none
  | .skinColour => if inRanges modifiableRanges n then some (0, .picture) else joiner
  | .indicator => if isRegionIndicator n then some (1, .indicators) else none
  | .indicators => if isRegionIndicator n then some (1, .indicators) else joiner
  | .picture => joiner
  | .joinedPicture =>
    if n = 0x20E3 then some (0, .joinedKey)
    else if isRegionIndicator n then some (1, .joinedIndicator)
    else if isSkinColour n then some (0, .skinColour)
    else if n = 0xE007F then some (0, .tagEnd)
    else if inRanges emojiRanges n then some (0, .picture)
    else none
  | .joinedKey => none
  | .joinedIndicator => if isRegionIndicator n then some (-1, .joinedIndicators false) else none
  | .joinedIndicators odd =>
    if isRegionIndicator n then
      if odd then some (-1, .joinedIndicators false) else some (3, .joinedIndicators true)
    else joiner
  | .tagEnd =>
    if isLetterTag then some (0, .tagLetters 1)
    else if isDigitTag then some (0, .tagDigits 1)
    else none
  | .tagLetters count =>
    if isLetterTag && count < 6 then some (0, .tagLetters (count + 1))
    else if isDigitTag && count < 5 then some (0, .tagDigits 1)
    else if 3 ≤ count then flag .picture
    else none
  | .tagDigits count =>
    if isDigitTag && count < 3 then some (0, .tagDigits (count + 1))
    else if count = 3 then flag .picture
    else none

/-- What a character adds to the width of a text, and the context of the character before it. -/
def measure (c : Char) (behind : Context) : Int × Context :=
  let n := c.toNat
  if behind.pictureStyle && inRanges pictureSequenceRanges n then
    (if behind.behind.isJoined then 0 else 2, Behind.picture.alone)
  else
    let x := if behind.pictureStyle then behind.dropPictureStyle else behind
    if n ≤ 0xA0 then
      if c = '\n' then (1, Behind.lineFeed.alone)
      else if c = '\x0d' && x = Behind.lineFeed.alone then (0, .atEnd)
      else (1, .atEnd)
    else if n = 0xFE0F then (0, x.selectPicture)
    else if n = 0xFE0E then (0, x.selectText)
    else if x.textStyle && inRanges textSequenceRanges n then (1, .atEnd)
    else
      let x := { x with textStyle := false }
      let admitsJoiners := x.behind.isLigature && x.behind != .alef
      if admitsJoiners && n = zeroWidthJoiner then (0, { x with behind := x.behind.join })
      else if admitsJoiners && isUnseenMark n then (0, x)
      else
        match x.behind.combine? c with
        | some (w, b) => (w, b.alone)
        | none => (charWidth c, (Behind.ofChar c).alone)

/-- The columns that a text takes. -/
def width (t : Text) : Nat :=
  (t.foldr (fun c r => let m := measure c r.2; (r.1 + m.1, m.2)) ((0 : Int), Context.atEnd)).1.toNat

end BytecodeParity.Text
