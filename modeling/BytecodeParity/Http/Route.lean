import BytecodeParity.Http.Percent
/-!
# Paths of addresses

A path comes as steps between slashes. A step of one dot stays, one of two dots leads back, and
neither is left in the path; a step that names a drive is never left by leading back. All other
steps are kept in percent form.
-/

namespace BytecodeParity.Http.Route

/-- The schemes whose paths are read differently. -/
inductive Kind where
  | file
  /-- The other schemes for which addresses have hosts. -/
  | special
  | other
  deriving DecidableEq, Repr

/-- Whether a character separates steps. -/
def isSlash (kind : Kind) (c : Char) : Bool := c == '/' || (kind != .other && c == '\\')

/-- Whether a step stays where it is. -/
def isHere (step : Text) : Bool :=
  let s := Text.lower step
  s == ['.'] || s == ['%', '2', 'e']

/-- Whether a step leads back. -/
def isBack (step : Text) : Bool :=
  match Text.lower step with
  | ['.', '.'] => true
  | ['.', '%', '2', 'e'] => true
  | ['%', '2', 'e', '.'] => true
  | ['%', '2', 'e', '%', '2', 'e'] => true
  | _ => false

/-- Whether a step is a letter and a mark of a drive. -/
def isDrive : Text → Bool
  | [c, mark] => c.isAlpha && (mark == ':' || mark == '|')
  | _ => false

/-- Whether a step begins as a drive and goes on, if at all, behind a backslash. -/
def beginsAsDrive : Text → Bool
  | c :: mark :: '\\' :: _ => isDrive [c, mark]
  | step => isDrive step

/-- Leads back, given the steps taken, last one first. -/
def back : List Text → List Text
  | [] => []
  | step :: taken => if beginsAsDrive step then step :: taken else taken

/-- The form in which a step is kept. The first step of a file's path is a drive in either
spelling. -/
def keep (kind : Kind) (isFirst : Bool) (step : Text) : Text :=
  match step with
  | [c, '|'] =>
    if kind == .file && isFirst && c.isAlpha then [c, ':'] else Percent.encode Percent.inPath step
  | _ => Percent.encode Percent.inPath step

/-- Follows steps from those taken, the last of which comes first. The last step of the answer has
no slash behind it, so it is empty where following ends with a step that is not kept. -/
def follow (kind : Kind) (taken : List Text) : List Text → List Text
  | [] => taken.reverse
  | step :: steps =>
    let isKept := !isBack step && !isHere step
    let taken :=
      if isBack step then back taken
      else if isHere step then taken
      else keep kind taken.isEmpty step :: taken
    if steps.isEmpty && !isKept then ([] :: taken).reverse else follow kind taken steps

/-- The steps of a path from its text without the slash at its front. -/
def steps (kind : Kind) (t : Text) : List Text := follow kind [] (t.splitOnP (isSlash kind))

/-- The path of steps. -/
def text (steps : List Text) : Text := '/' :: ['/'].intercalate steps

end BytecodeParity.Http.Route
