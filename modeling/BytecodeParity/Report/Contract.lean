import BytecodeParity.Report.Comparison
import BytecodeParity.Run
/-!
# The parts of a run in print

The head of a run, the report on each contract, and the report on pool init code hashes, line by
line.
-/

namespace BytecodeParity

/-- The lines at the head of a run. -/
def Deployment.banner (d : Deployment) : List String :=
  [ Report.heavyRule,
    "BYTECODE COMPARISON: " ++ d.network.name ++ " (chain " ++ toString d.chainId ++
      ") vs Uniswap V3 (Ethereum)",
    "(With constructor args / immutables masked out)",
    Report.heavyRule,
    "",
    "Deployed POOL_INIT_CODE_HASH:  0x" ++ String.ofList d.poolInitCodeHash,
    "Reference POOL_INIT_CODE_HASH: 0x" ++
      String.ofList WellKnown.canonicalPoolInitCodeHash ]

namespace ContractReport

/-- The lines about the sizes of both codes, if both are known. -/
def sizeLines (r : ContractReport) : List String :=
  match r.deployedSize, r.referenceSize with
  | some d, some s =>
    [ "   Deployed size:  " ++ Report.formatSize d ++ " bytes",
      "   Reference size: " ++ Report.formatSize s ++ " bytes" ]
  | _, _ => []

/-- The lines about what became of a contract that has an address. -/
def outcomeLines (colours : Bool) (r : ContractReport) : List String :=
  match r.outcome with
  | .notDeployed => []
  | .noCode side =>
    ["   " ++ Style.yellow.paint colours "[WARN]" ++ " " ++ side.name ++ " contract has no code"]
  | .failed message => ["   " ++ Style.red.paint colours "[ERROR]" ++ " " ++ message]
  | .compared result =>
    r.sizeLines ++
      ["", "   [COMPARISON] (metadata stripped, immutables masked):"] ++
      (result.lines colours r.name).map fun l => "      " ++ l

/-- The report on a contract, line by line. -/
def lines (colours : Bool) (network : String) (r : ContractReport) : List String :=
  ["", Report.lightRule, "[CONTRACT] " ++ Style.bold.paint colours r.name] ++
    match r.deployedAddress with
    | none => ["   " ++ Style.yellow.paint colours "[SKIP]" ++ " Not deployed on " ++ network]
    | some address =>
      [ "   Deployed:  " ++ address,
        "   Reference: " ++ r.referenceAddress,
        Report.lightRule ] ++ r.outcomeLines colours

end ContractReport

/-- The line about the pool init code hash of a contract. -/
def HashReport.line (colours : Bool) (r : HashReport) : String :=
  match r.result with
  | .ok (.found byte) =>
    "   " ++ Style.green.paint colours "[PASS]" ++ " " ++ r.name ++
      ": deployment hash found at byte " ++ toString byte
  | .ok .referenceFound =>
    "   " ++ Style.red.paint colours "[FAIL]" ++ " " ++ r.name ++
      ": WRONG! Reference hash found instead"
  | .ok .missing =>
    "   " ++ Style.yellow.paint colours "[WARN]" ++ " " ++ r.name ++ ": Neither hash found"
  | .error message =>
    "   " ++ Style.red.paint colours "[ERROR]" ++ " " ++ r.name ++ ": " ++ message

/-- The report on pool init code hashes, line by line. -/
def Report.hashLines (colours : Bool) (reports : List HashReport) : List String :=
  ["", Report.heavyRule, "POOL_INIT_CODE_HASH VERIFICATION", Report.heavyRule] ++
    reports.map (HashReport.line colours)

end BytecodeParity
