import BytecodeParity.Code.Comparison
import BytecodeParity.Contract.Catalog
import BytecodeParity.Json.Basic
import BytecodeParity.Report.Layout
import BytecodeParity.Report.Style
/-!
# The result of a comparison in print

A result is told in a few lines: a verdict, the change in size, the first differences and how many
there are beyond these, and whether a difference was expected.
-/

namespace BytecodeParity

/-- A difference in one line: position, deployed byte, reference byte. -/
def Difference.format (d : Difference) : String :=
  Report.alignRight 6 d.position ++ ": 0x" ++ String.ofList d.deployed ++ " -> 0x" ++
    String.ofList d.reference

namespace Comparison

/-- Differences that are shown; the others are only counted. -/
def shownDifferences : Nat := 5

/-- The line with the verdict on codes that differ. -/
def verdictLine (colours : Bool) (c : Comparison) : String :=
  Style.red.paint colours "[FAIL]" ++ " " ++ toString c.differences.length ++ " byte(s) differ"

/-- The line about a change in size, where there is one. -/
def sizeLines (c : Comparison) : List String :=
  if c.sizeDelta = 0 then []
  else ["Size delta after normalization: " ++ Report.formatSigned c.sizeDelta ++ " byte(s)"]

/-- The lines with the first differences. -/
def differenceLines (c : Comparison) : List String :=
  (c.differences.take shownDifferences).map fun d => "  " ++ d.format

/-- The line that counts the differences not shown, where there are any. -/
def remainderLines (c : Comparison) : List String :=
  if c.differences.length ≤ shownDifferences then []
  else ["  ... and " ++ toString (c.differences.length - shownDifferences) ++ " more"]

/-- The line about an expected difference, where one is expected. -/
def noteLines (colours : Bool) (name : String) : List String :=
  match expectedDifference? name with
  | some note => [Style.cyan.paint colours "[NOTE]" ++ " Expected difference: " ++ note]
  | none => []

/-- The result for the contract of a name, line by line. -/
def lines (colours : Bool) (name : String) (c : Comparison) : List String :=
  if c.identical then
    [Style.green.paint colours "[PASS]" ++ " IDENTICAL - Logic bytecode matches"]
  else
    c.verdictLine colours :: c.sizeLines ++
      "First differences (position: deployed -> reference):" :: c.differenceLines ++
      c.remainderLines ++ noteLines colours name

/-- The result as a JSON value. -/
def toJson (c : Comparison) : Json :=
  .object
    [ ("identical", .bool c.identical),
      ("sizeDeltaBytes", .number (.integer c.sizeDelta)),
      ("differences", .array (c.differences.map fun d =>
        .object
          [ ("bytePosition", .number (.integer d.position)),
            ("deployedByte", .string (String.ofList d.deployed)),
            ("referenceByte", .string (String.ofList d.reference)) ])) ]

end Comparison

end BytecodeParity
