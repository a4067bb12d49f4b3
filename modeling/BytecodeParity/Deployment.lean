import BytecodeParity.AddressBook
import BytecodeParity.Contract.Immutables
import BytecodeParity.Settings.Basic
/-!
# Deployments

A deployment with everything settled that is needed to compare it. What the address book says goes
before what the settings say.
-/

namespace BytecodeParity

/-- A deployment ready to be compared. -/
structure Deployment where
  network : Network
  chainId : Nat
  rpcUrl : String
  book : AddressBook
  /-- The pool init code hash in raw form. -/
  poolInitCodeHash : Text
  deriving DecidableEq, Repr

namespace Deployment

/-- The endpoint at which the deployment is reached. -/
def chooseEndpoint (settings : Settings) (network : Network) (chainId : Nat) (book : AddressBook) :
    Except Failure String :=
  match book.rpc.filter fun r => r != "" with
  | some rpc => .ok rpc
  | none => (settings.endpoint chainId).mapError fun _ => .noEndpointForNetwork network

/-- The pool init code hash of the address book, or that of the known deployment where the book
has none. -/
def choosePoolHash (book : AddressBook) : Text :=
  match book.poolInitCodeHash.map fun h => Hex.raw h.toList with
  | some (c :: hash) => c :: hash
  | _ => WellKnown.poolInitCodeHash

/-- Settles what an address book leaves open. A missing endpoint is noticed before a malformed
hash. -/
def resolve (settings : Settings) (network : Network) (book : AddressBook) :
    Except Failure Deployment := do
  let chainId := book.chainId.getD network.chainId
  let rpcUrl ← chooseEndpoint settings network chainId book
  let hash := choosePoolHash book
  match Hex.fault? hash with
  | some fault => .error (.malformedHash fault)
  | none => .ok ⟨network, chainId, rpcUrl, book, hash⟩

/-- The immutable values of the deployment. -/
def registry (d : Deployment) : Registry :=
  Registry.ofDeployment d.book.contracts d.poolInitCodeHash

end Deployment

end BytecodeParity
