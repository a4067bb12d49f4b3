import BytecodeParity.Text.Basic
import BytecodeParity.Text.CaseTable
import BytecodeParity.Text.Ranges
/-!
# Full lower-case mapping

Lower case beyond the letters A to Z, used where addresses serve as keys. The mapping sends each
character to one or two characters and looks at the neighbours of a capital sigma only, which at
the end of a word becomes the final form.
-/

namespace BytecodeParity.Text

/-- The lower-case form of a character by itself. The dotted capital I keeps its dot as a
combining mark. -/
def lowerCaseOf (c : Char) : Text :=
  if c.toNat = 0x130 then ['i', Char.ofNat 0x307]
  else
    match lowerCaseRuns.find? fun r =>
        r.1 ≤ c.toNat && c.toNat ≤ r.2.1 && (c.toNat - r.1) % r.2.2.1 == 0 with
    | some r => [Char.ofNat (c.toNat + r.2.2.2).toNat]
    | none => [c]

/-- Whether the first character that is not case-ignorable has a case. -/
def startsCased (t : Text) : Bool :=
  match t.find? fun c => !inRanges caseIgnorableRanges c.toNat with
  | some c => inRanges casedRanges c.toNat
  | none => false

/-- Maps a text whose preceding characters, last one first, are `before`. -/
def foldCaseAfter (before : Text) : Text → Text
  | [] => []
  | c :: t =>
    let image :=
      if c = 'Σ' then (if startsCased before && !startsCased t then ['ς'] else ['σ'])
      else if c.toNat < 0x80 then [c.toLower]
      else lowerCaseOf c
    image ++ foldCaseAfter (c :: before) t

/-- The lower-case form of a text. -/
def foldCase (t : Text) : Text := foldCaseAfter [] t

end BytecodeParity.Text
