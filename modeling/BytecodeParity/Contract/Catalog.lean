import BytecodeParity.Text.Basic
/-!
# The canonical contracts

The eleven contracts of the canonical deployment on Ethereum that a fork is compared with: their
names and addresses in reporting order, which of them embed the pool init code hash, and which
differences of a fork are accepted beforehand.
-/

namespace BytecodeParity

/-- A contract of the canonical deployment. -/
inductive Contract where
  | factory
  | multicall
  | proxyAdmin
  | tickLens
  | positionDescriptor
  | positionManager
  | migrator
  | staker
  | quoter
  | swapRouter
  | universalRouter
  deriving DecidableEq, Repr

namespace Contract

/-- The name under which address files and reports know the contract. -/
def name : Contract → String
  | factory => "UniswapV3Factory"
  | multicall => "Multicall2"
  | proxyAdmin => "ProxyAdmin"
  | tickLens => "TickLens"
  | positionDescriptor => "NonfungibleTokenPositionDescriptor"
  | positionManager => "NonfungiblePositionManager"
  | migrator => "V3Migrator"
  | staker => "UniswapV3Staker"
  | quoter => "QuoterV2"
  | swapRouter => "SwapRouter02"
  | universalRouter => "UniversalRouter"

/-- The address of the canonical contract. -/
def address : Contract → String
  | factory => "0x1F98431c8aD98523631AE4a59f267346ea31F984"
  | multicall => "0x5BA1e12693Dc8F9c48aAD8770482f4739bEeD696"
  | proxyAdmin => "0xB753548F6E010e7e680BA186F9Ca1BdAB2E90cf2"
  | tickLens => "0xbfd8137f7d1516D3ea5cA83523914859ec47F573"
  | positionDescriptor => "0x91ae842A5Ffd8d12023116943e72A606179294f3"
  | positionManager => "0xC36442b4a4522E871399CD717aBDD847Ab11FE88"
  | migrator => "0xA5644E29708357803b5A882D272c41cC0dF92B34"
  | staker => "0xe34139463bA50bD61336E0c446Bd8C0867c6fE65"
  | quoter => "0x61fFE014bA17989E743c5F6cB21bF9697530B21e"
  | swapRouter => "0x68b3465833fb72A70ecDF485E0e4C7bD8665Fc45"
  | universalRouter => "0x66a9893cC07D91D95644AEDD05D03f95e1dBA8Af"

/-- Every canonical contract, in reporting order. -/
def all : List Contract :=
  [factory, multicall, proxyAdmin, tickLens, positionDescriptor, positionManager, migrator,
    staker, quoter, swapRouter, universalRouter]

/-- The canonical contract of a name. -/
def ofName? (name : String) : Option Contract := all.find? fun c => c.name == name

/-- The contracts that embed the pool init code hash, in reporting order. -/
def embeddingPoolHash : List Contract :=
  [positionManager, staker, quoter, swapRouter, universalRouter]

/-- The difference that is known and accepted beforehand, for the contracts that have one. -/
def expectedDifference? : Contract → Option String
  | factory => some "Minor difference in fee tier encoding (0x02 vs 0x04)"
  | universalRouter =>
    some "Different size due to V4 placeholder handling and UnsupportedProtocol pattern"
  | _ => none

end Contract

/-- The difference accepted beforehand for the contract of a name. -/
def expectedDifference? (name : String) : Option String :=
  (Contract.ofName? name).bind Contract.expectedDifference?

/-! ## Well-known values

All of them are digits without a mark, in small letters. -/

namespace WellKnown

/-- Pool init code hash of the deployed fork, where the address file carries none. -/
def poolInitCodeHash : Text :=
  "851d77a45b8b9a205fb9f44cb829cceba85282714d2603d601840640628a3da7".toList

/-- Pool init code hash of the canonical deployment. -/
def canonicalPoolInitCodeHash : Text :=
  "e34f199b19b2b4f47f68442619d555527d244f78a3297ea89325f843f87b8b54".toList

/-- Pair init code hash that the canonical universal router embeds. -/
def canonicalPairInitCodeHash : Text :=
  "96e8ac4277198ff8b6f785478aa9a39f403cb768dd02cbee326c3e7da348845f".toList

/-- What stands in place of the pair init code hash in a router built without pairs. -/
def zeroPairInitCodeHash : Text := List.replicate 64 '0'

/-- Wrapped ether on rollups, where it lies at the same address from the first block on. -/
def rollupWrappedEther : Text := "4200000000000000000000000000000000000006".toList

/-- The token permit contract, at one address on every chain. -/
def permit : Text := "000000000022d473030f116ddee9f6b43ac78ba3".toList

/-- The canonical pool factory. -/
def factory : Text := "1f98431c8ad98523631ae4a59f267346ea31f984".toList

/-- Wrapped ether on Ethereum. -/
def wrappedEther : Text := "c02aaa39b223fe8d0a0e5c4f27ead9083c756cc2".toList

/-- The canonical token descriptor. -/
def tokenDescriptor : Text := "ee6a57ec80ea46401049e92587e52f5ec1c24785".toList

/-- The canonical descriptor library. -/
def descriptorLibrary : Text := "42b24a95702b9986e82d421cc3568932790a48ec".toList

/-- The canonical position manager. -/
def positionManager : Text := "c36442b4a4522e871399cd717abdd847ab11fe88".toList

/-- The canonical pair factory. -/
def pairFactory : Text := "5c69bee701ef814a2b6a3edd4b1652cb9cc5aa6f".toList

/-- The canonical singleton pool manager. -/
def poolManager : Text := "000000000004444c5dc75cb358380d2e3de08a90".toList

/-- The position manager beside the singleton pool manager. -/
def singletonPositionManager : Text := "00000000bd216513d74c8cf14cf4747e6aaa6420".toList

end WellKnown

end BytecodeParity
