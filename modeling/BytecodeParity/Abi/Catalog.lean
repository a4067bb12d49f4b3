import BytecodeParity.AddressBook
/-!
# Interfaces and where they are built

Which contracts have an interface worth keeping, and the build artifact of each that comes from a
source repository.
-/

namespace BytecodeParity.Abi

/-- The build artifact of a contract. -/
structure Artifact where
  repository : String
  /-- The file, as seen from the repository. -/
  path : String
  deriving DecidableEq, Repr

/-- The contracts that have a build artifact, with it. -/
def artifacts : List (String × Artifact) :=
  [ ("UniswapV3Factory",
      ⟨"v3-core", "artifacts/contracts/UniswapV3Factory.sol/UniswapV3Factory.json"⟩),
    ("UniswapV3Pool", ⟨"v3-core", "artifacts/contracts/UniswapV3Pool.sol/UniswapV3Pool.json"⟩),
    ("NonfungiblePositionManager",
      ⟨"v3-periphery",
        "artifacts/contracts/NonfungiblePositionManager.sol/NonfungiblePositionManager.json"⟩),
    ("V3Migrator", ⟨"v3-periphery", "artifacts/contracts/V3Migrator.sol/V3Migrator.json"⟩),
    ("TickLens", ⟨"v3-periphery", "artifacts/contracts/lens/TickLens.sol/TickLens.json"⟩),
    ("Multicall2", ⟨"v3-periphery", "artifacts/contracts/lens/Multicall2.sol/Multicall2.json"⟩),
    ("NonfungibleTokenPositionDescriptor",
      ⟨"v3-periphery",
        "artifacts/contracts/NonfungibleTokenPositionDescriptor.sol/" ++
          "NonfungibleTokenPositionDescriptor.json"⟩),
    ("SwapRouter02",
      ⟨"swap-router-contracts", "artifacts/contracts/SwapRouter02.sol/SwapRouter02.json"⟩),
    ("QuoterV2",
      ⟨"swap-router-contracts", "artifacts/contracts/lens/QuoterV2.sol/QuoterV2.json"⟩),
    ("UniswapV3Staker",
      ⟨"v3-staker", "artifacts/contracts/UniswapV3Staker.sol/UniswapV3Staker.json"⟩),
    ("UniversalRouter",
      ⟨"universal-router", "artifacts/contracts/UniversalRouter.sol/UniversalRouter.json"⟩),
    ("ERC20",
      ⟨"v3-periphery",
        "node_modules/@openzeppelin/contracts/build/contracts/ERC20.json"⟩) ]

/-- The build artifact of a contract, if it has one. -/
def artifact? (name : String) : Option Artifact := OrderedMap.find? name artifacts

/-- The file of an artifact below the directory that holds the repositories. -/
def Artifact.file (a : Artifact) (root : String) : String :=
  Path.join (Path.join root a.repository) a.path

/-- Proxies and libraries, whose interfaces are of no use. -/
def skipped : List String :=
  ["WETH9", "ProxyAdmin", "DescriptorProxy", "NonfungibleTokenDescriptorLibrary"]

/-- Contracts whose interfaces are wanted though no address book lists them. -/
def additional : List String := ["UniswapV3Pool", "ERC20"]

/-- The contract whose interface is published with its source on Ethereum. -/
def permitContract : String := "Permit2"

/-- The address of that contract. -/
def permitAddress : String := "0x000000000022D473030F116dDEE9F6B43aC78BA3"

/-- The contracts to look up for an address book: those it lists and then the additional ones, no
contract twice. -/
def contractsToLookUp (book : AddressBook) : List String :=
  let listed := OrderedMap.keys book.contracts
  listed ++ additional.filter fun n => !listed.contains n

end BytecodeParity.Abi
