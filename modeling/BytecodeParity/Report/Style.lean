import BytecodeParity.Environment
import BytecodeParity.Text.Replace
/-!
# Coloured print

Words that matter are set off by colours where the reader of the output wants them. A style begins
with a code, ends with a reset, and is taken up again behind every reset within.
-/

namespace BytecodeParity

/-- How a word is set off. -/
inductive Style where
  | red
  | green
  | yellow
  | cyan
  | bold
  | dimmed
  deriving DecidableEq, Repr

namespace Style

/-- The number of a style. -/
def code : Style → Nat
  | red => 31
  | green => 32
  | yellow => 33
  | cyan => 36
  | bold => 1
  | dimmed => 2

/-- The text that begins a style of a number. -/
def start (code : Nat) : String := "\x1b[" ++ toString code ++ "m"

/-- The text that ends every style. -/
def reset : String := "\x1b[0m"

/-- Sets a text off, if there are colours. -/
def paint (colours : Bool) (style : Style) (text : String) : String :=
  if colours then
    let taken :=
      Text.replaceAll reset.toList (reset ++ start style.code).toList text.toList
    start style.code ++ String.ofList taken ++ reset
  else text

/-- Whether output that does not go to a terminal is coloured all the same. -/
def forcedBy (env : Environment) : Bool :=
  match env.get? "CLICOLOR_FORCE" with
  | some v => v != "0"
  | none => false

end Style

end BytecodeParity
