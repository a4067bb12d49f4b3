import BytecodeParity.Text.Basic
/-!
# Written tables

The larger Unicode tables are held as texts: entries between blanks or breaks, each a list of
hexadecimal numbers between commas.
-/

namespace BytecodeParity.Text

/-- The number that a hexadecimal digit adds to those before it. -/
def addHexDigit (n : Nat) (c : Char) : Nat :=
  16 * n + (if c.isDigit then c.toNat - 0x30 else c.toNat - 0x37)

/-- The entries of a written table. -/
def readTable (table : String) : List (List Nat) :=
  let entries := (table.toList.splitOnP fun c => c == ' ' || c == '\n').filter fun e => !e.isEmpty
  entries.map fun entry => (entry.splitOn ',').map fun number => number.foldl addHexDigit 0

end BytecodeParity.Text
