/-!
# Text as a list of characters

Code, addresses and hashes are inspected character by character, so they are held as lists of
characters. Sizes and offsets are counted in bytes of the UTF-8 form, where a hexadecimal digit
is one byte and any other character may be up to four.
-/

namespace BytecodeParity

/-- Text under inspection. -/
abbrev Text := List Char

namespace Text

/-- Number of bytes of the UTF-8 form. -/
def byteSize : Text → Nat
  | [] => 0
  | c :: t => c.utf8Size + byteSize t

/-- The bytes of the UTF-8 form. -/
def utf8 (t : Text) : List UInt8 := t.flatMap String.utf8EncodeChar

/-- Every letter from A to Z made small; all other characters stay. -/
def lower (t : Text) : Text := t.map Char.toLower

/-- Drops exactly `n` bytes from the front. There is no answer when the text is shorter or when
the cut would fall inside a character. -/
def dropBytes? : Nat → Text → Option Text
  | 0, t => some t
  | _ + 1, [] => none
  | n + 1, c :: t => if c.utf8Size ≤ n + 1 then dropBytes? (n + 1 - c.utf8Size) t else none

/-- Drops exactly `n` bytes from the end, under the rule of `dropBytes?`. -/
def dropLastBytes? (n : Nat) (t : Text) : Option Text :=
  (dropBytes? n t.reverse).map List.reverse

/-! ## Blanks -/

/-- The characters with the Unicode property White_Space. -/
def isBlank (c : Char) : Bool :=
  let n := c.toNat
  (9 ≤ n && n ≤ 13) || n == 0x20 || n == 0x85 || n == 0xA0 || n == 0x1680 ||
  (0x2000 ≤ n && n ≤ 0x200A) || n == 0x2028 || n == 0x2029 || n == 0x202F || n == 0x205F ||
  n == 0x3000

/-- Removes the blanks at both ends. -/
def trim (t : Text) : Text := ((t.dropWhile isBlank).reverse.dropWhile isBlank).reverse

/-! ## Lines -/

/-- A line without the carriage return at its end. -/
def dropReturn (line : Text) : Text := if line.getLast? = some '\x0d' then line.dropLast else line

/-- The lines of a text. A carriage return in front of a break belongs to the break, and a break at
the end begins no line. -/
def lines (t : Text) : List Text :=
  let parts := t.splitOn '\n'
  parts.dropLast.map dropReturn ++ (parts.getLast?.toList).filter fun l => !l.isEmpty

/-! ## Laws -/

@[simp] theorem byteSize_nil : byteSize [] = 0 := rfl

@[simp] theorem byteSize_cons (c : Char) (t : Text) :
    byteSize (c :: t) = c.utf8Size + byteSize t := rfl

@[simp] theorem byteSize_append (s t : Text) : byteSize (s ++ t) = byteSize s + byteSize t := by
  induction s with
  | nil => simp
  | cons c s ih => simp [ih, Nat.add_assoc]

@[simp] theorem lower_nil : lower [] = [] := rfl

@[simp] theorem lower_cons (c : Char) (t : Text) : lower (c :: t) = c.toLower :: lower t := rfl

@[simp] theorem lower_append (s t : Text) : lower (s ++ t) = lower s ++ lower t := by
  simp [lower]

end Text

end BytecodeParity
