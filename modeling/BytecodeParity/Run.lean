import BytecodeParity.Code.Pair
import BytecodeParity.Code.PoolHash
import BytecodeParity.Code.Shelf
import BytecodeParity.Deployment
/-!
# Comparing a whole deployment

Every canonical contract is compared with its counterpart in the deployment, and the contracts that
embed the pool init code hash are searched for it. A run never fails: what goes wrong with one
contract is the outcome for that contract and touches no other.
-/

namespace BytecodeParity

/-- One of the two systems compared. -/
inductive Side where
  | deployed
  | reference
  deriving DecidableEq, Repr

/-- The name of a side. -/
def Side.name : Side → String
  | deployed => "deployed"
  | reference => "reference"

/-- What became of a contract. -/
inductive Outcome where
  | notDeployed
  | noCode (side : Side)
  | compared (result : Comparison)
  /-- A code could not be had. -/
  | failed (message : String)
  deriving DecidableEq, Repr

/-- What there is to tell about a contract. -/
structure ContractReport where
  name : String
  deployedAddress : Option String
  referenceAddress : String
  /-- Size of the deployed code in bytes, as it was fetched. -/
  deployedSize : Option Nat
  /-- Size of the reference code in bytes, as it was fetched. -/
  referenceSize : Option Nat
  outcome : Outcome
  deriving DecidableEq, Repr

/-- Which pool init code hash a contract carries, or why that is not known. -/
structure HashReport where
  name : String
  result : Except String HashLocation

namespace Deployment

/-! ## Contracts -/

/-- The outcome for a contract of which both codes were asked for. The deployed side is looked at
first. -/
def outcomeOf (d : Deployment) (name : String) :
    Except String Text → Except String Text → Outcome
  | .error m, _ => .failed m
  | .ok _, .error m => .failed m
  | .ok deployed, .ok reference =>
    if Hex.isEmptyCode deployed then .noCode .deployed
    else if Hex.isEmptyCode reference then .noCode .reference
    else .compared (Code.compareContract name deployed reference d.registry Registry.canonical)

/-- The size of a code, if there was a comparison for which it counts. -/
def sizeFor (outcome : Outcome) (code : Except String Text) : Option Nat :=
  match outcome, code with
  | .compared _, .ok c => some (Hex.byteLength c)
  | _, _ => none

/-- Compares one contract with its counterpart. -/
def compareOne (d : Deployment) (deployed reference : Code.Source) (c : Contract) :
    ContractReport :=
  match d.book.deployedAddress? c.name with
  | none => ⟨c.name, none, c.address, none, none, .notDeployed⟩
  | some address =>
    let deployedCode := deployed address
    let referenceCode := reference c.address
    let outcome := d.outcomeOf c.name deployedCode referenceCode
    { name := c.name
      deployedAddress := some address
      referenceAddress := c.address
      deployedSize := sizeFor outcome deployedCode
      referenceSize := sizeFor outcome referenceCode
      outcome := outcome }

/-- Compares the contracts one after the other and shows each report, as it is made, to an
observer. -/
def compareEach {σ : Type} (d : Deployment) (deployed reference : Code.Source)
    (observe : σ → ContractReport → σ) : List Contract → σ → List ContractReport × σ
  | [], s => ([], s)
  | c :: cs, s =>
    let report := d.compareOne deployed reference c
    let (reports, s) := compareEach d deployed reference observe cs (observe s report)
    (report :: reports, s)

/-- Compares every canonical contract, in reporting order. -/
def run {σ : Type} (d : Deployment) (deployed reference : Code.Source)
    (observe : σ → ContractReport → σ) (s : σ) : List ContractReport × σ :=
  d.compareEach deployed reference observe Contract.all s

/-! ## Pool init code hashes -/

/-- Searches the code of a contract for the pool init code hash. A contract that is not deployed
is left out. -/
def verifyPoolHash? (d : Deployment) (deployed : Code.Source) (c : Contract) :
    Option HashReport := do
  let address ← d.book.deployedAddress? c.name
  some
    ⟨c.name, (deployed address).map fun code =>
      Code.locatePoolHash code d.poolInitCodeHash WellKnown.canonicalPoolInitCodeHash⟩

/-- Searches every deployed contract that embeds the pool init code hash, in reporting order. -/
def verifyPoolHashes (d : Deployment) (deployed : Code.Source) : List HashReport :=
  Contract.embeddingPoolHash.filterMap (d.verifyPoolHash? deployed)

end Deployment

end BytecodeParity
