import BytecodeParity.Code.Pair
import BytecodeParity.CommandLine.World
import BytecodeParity.AddressBook
import BytecodeParity.Json.Printer
import BytecodeParity.Report.Comparison
/-!
# Comparing two codes

The command that compares two codes given on the command line or in files, without asking anyone.
Its exit status is the verdict.
-/

namespace BytecodeParity.Diff

/-- What to compare and how. -/
structure Options where
  deployed : String
  reference : String
  contract : String
  /-- The address book that tells the immutable values of the deployed code. -/
  addresses : Option String
  /-- The pool init code hash of the deployment, in raw form. -/
  poolInitCodeHash : Option Text
  /-- Whether differences that are accepted beforehand count as success. -/
  allowExpected : Bool
  /-- Whether the result is printed as JSON. -/
  json : Bool
  deriving DecidableEq, Repr

/-- The code that an argument stands for: the content of a file behind an at sign, else the
argument itself. Blanks around it do not count. -/
def readCode (fs : Files.Tree) (argument : String) : Except Failure Text :=
  match argument.toList with
  | '@' :: path =>
    match fs.readText (String.ofList path) with
    | .ok content => .ok (Text.trim content.toList)
    | .error e => .error (.file e)
  | t => .ok (Text.trim t)

/-- Refuses names that belong to no canonical contract. No name at all is let pass. -/
def checkContract (name : String) : Except Failure Unit :=
  if name = "" ∨ (Contract.ofName? name).isSome then .ok () else .error (.unknownContract name)

/-- The contract addresses of the deployment, as far as they are given. -/
def readContracts (fs : Files.Tree) : Option String → Except Failure (OrderedMap String String)
  | none => .ok []
  | some path => (AddressBook.ofFile fs path).map AddressBook.contracts

/-- The result of the comparison. -/
def result (fs : Files.Tree) (o : Options) : Except Failure Comparison := do
  let deployed ← readCode fs o.deployed
  let reference ← readCode fs o.reference
  checkContract o.contract
  let contracts ← readContracts fs o.addresses
  let registry :=
    Registry.ofDeployment contracts (o.poolInitCodeHash.getD WellKnown.poolInitCodeHash)
  .ok (Code.compareContract o.contract deployed reference registry Registry.canonical)

/-- Whether a result counts as success. -/
def accepts (o : Options) (c : Comparison) : Bool :=
  c.identical || ((expectedDifference? o.contract).isSome && o.allowExpected)

/-- The result in print. -/
def print (colours : Bool) (o : Options) (c : Comparison) : List String :=
  if o.json then [c.toJson.pretty] else c.lines colours o.contract

/-- Runs the command. -/
def run (w : World) (o : Options) : Ending :=
  match result w.files o with
  | .error f => ⟨[], some f, w.files, w.environment⟩
  | .ok c =>
    { lines := print (Style.forcedBy w.environment) o c
      failure := if accepts o c then none else some (.codesDiffer c.differences.length)
      files := w.files
      environment := w.environment }

end BytecodeParity.Diff
