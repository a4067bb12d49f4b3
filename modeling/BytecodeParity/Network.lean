/-!
# Networks

The two networks on which a fork is deployed, and the chains that matter.
-/

namespace BytecodeParity

/-- A network with a deployment of the fork. -/
inductive Network where
  | testnet
  | mainnet
  deriving DecidableEq, Repr

namespace Network

/-- Every network. -/
def all : List Network := [testnet, mainnet]

/-- The name under which the command line and reports know a network. -/
def name : Network → String
  | testnet => "testnet"
  | mainnet => "mainnet"

/-- The file that lists the addresses of the deployment. -/
def addressFile : Network → String
  | testnet => "addresses.json"
  | mainnet => "mainnetAddresses.json"

/-- The chain on which the fork is deployed. -/
def chainId : Network → Nat
  | testnet => 6343
  | mainnet => 4326

/-- The network of a name. -/
def ofName? (name : String) : Option Network := all.find? fun n => n.name == name

end Network

/-- The chain of the canonical deployment. -/
def ethereumChainId : Nat := 1

end BytecodeParity
