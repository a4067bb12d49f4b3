import BytecodeParity.Text.Basic
/-!
# Occurrences of one text in another

Occurrences are taken from left to right and do not overlap: after one is chosen the search goes
on behind its last character.
-/

namespace BytecodeParity.Text

/-- Replaces the occurrences of `old`, after `skip` characters that belong to the occurrence
already replaced. -/
def replaceFrom (old new : Text) : Nat → Text → Text
  | _, [] => []
  | skip + 1, _ :: t => replaceFrom old new skip t
  | 0, c :: t =>
    if old.isPrefixOf (c :: t) then new ++ replaceFrom old new (old.length - 1) t
    else c :: replaceFrom old new 0 t

/-- Replaces every occurrence of `old` by `new`. The empty text is taken to occur nowhere. -/
def replaceAll (old new t : Text) : Text :=
  if old.isEmpty then t else replaceFrom old new 0 t

/-- The byte offset of the first occurrence. -/
def offset? (needle : Text) : Text → Option Nat
  | [] => if needle.isEmpty then some 0 else none
  | c :: t =>
    if needle.isPrefixOf (c :: t) then some 0
    else (offset? needle t).map (c.utf8Size + ·)

/-- Whether `needle` occurs at all. -/
def occurs (needle t : Text) : Bool := (offset? needle t).isSome

end BytecodeParity.Text
