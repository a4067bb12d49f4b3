import BytecodeParity.Report.Contract
import BytecodeParity.Report.Table
/-!
# The summary of a run

How many contracts came out which way, and a table with a row for each.
-/

namespace BytecodeParity

/-- How many contracts came out which way. -/
structure RunSummary where
  identical : Nat
  differing : Nat
  skipped : Nat
  failed : Nat
  deriving DecidableEq, Repr

namespace RunSummary

/-- The summary of nothing. -/
def empty : RunSummary := ⟨0, 0, 0, 0⟩

/-- Counts one more outcome. -/
def count (s : RunSummary) : Outcome → RunSummary
  | .compared result =>
    if result.identical then { s with identical := s.identical + 1 }
    else { s with differing := s.differing + 1 }
  | .notDeployed => { s with skipped := s.skipped + 1 }
  | .noCode _ => { s with failed := s.failed + 1 }
  | .failed _ => { s with failed := s.failed + 1 }

/-- The summary of a run. -/
def ofReports (reports : List ContractReport) : RunSummary :=
  reports.foldl (fun s r => s.count r.outcome) empty

/-- The counts in words. -/
def describe (s : RunSummary) : String :=
  toString s.identical ++ " identical, " ++ toString s.differing ++ " differing, " ++
    toString s.skipped ++ " skipped, " ++ toString s.failed ++ " failed"

end RunSummary

namespace ContractReport

/-- What became of a contract, in a few words. -/
def statusCell (colours : Bool) (r : ContractReport) : String :=
  match r.outcome with
  | .compared result =>
    if result.identical then Style.green.paint colours "identical"
    else
      let text := toString result.differences.length ++ " byte(s) differ"
      if (expectedDifference? r.name).isSome then
        Style.yellow.paint colours (text ++ " (expected)")
      else Style.red.paint colours text
  | .notDeployed => Style.dimmed.paint colours "not deployed"
  | .noCode side => Style.yellow.paint colours ("no " ++ side.name ++ " code")
  | .failed _ => Style.red.paint colours "error"

/-- The change in size of a contract that was compared. -/
def sizeCell (r : ContractReport) : String :=
  match r.outcome with
  | .compared result => Report.formatSigned result.sizeDelta
  | _ => "-"

end ContractReport

namespace Report

/-- The rows of the summary table. -/
def summaryRows (colours : Bool) (reports : List ContractReport) : List (List String) :=
  ["Contract", "Status", "Size delta"] ::
    (reports.map fun r => [r.name, r.statusCell colours, r.sizeCell]) ++
    [["Total", (RunSummary.ofReports reports).describe, ""]]

/-- The summary of a run, line by line. -/
def summaryLines (colours : Bool) (reports : List ContractReport) : List String :=
  "" :: Table.lines (summaryRows colours reports)

/-- Lines as they are printed. -/
def printed (lines : List String) : String := String.join (lines.map fun l => l ++ "\n")

end Report

end BytecodeParity
