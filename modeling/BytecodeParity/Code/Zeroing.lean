import BytecodeParity.Contract.Catalog
import BytecodeParity.Text.Replace
/-!
# Absent features

The fork leaves out some features of the canonical deployment, and where the canonical code holds
an address for one of them, the fork's code holds zeros. The addresses of such features are zeroed
in the canonical code before the two are compared.
-/

namespace BytecodeParity

/-- The addresses in a canonical contract that stand for features the fork leaves out. -/
def Contract.absentAddresses : Contract → List Text
  | .swapRouter => [WellKnown.pairFactory]
  | .universalRouter =>
    [WellKnown.poolManager, WellKnown.singletonPositionManager, WellKnown.pairFactory]
  | _ => []

namespace Code

/-- Writes zeros over one address wherever it occurs. -/
def zeroAddress (code address : Text) : Text :=
  Text.replaceAll address (List.replicate address.length '0') code

/-- Writes zeros over the addresses of absent features, one address after the other. The code of
a contract that has any comes out in small letters, any other code as it is. -/
def zeroAbsentFeatures (name : String) (code : Text) : Text :=
  match (Contract.ofName? name).map Contract.absentAddresses with
  | some (a :: addresses) => (a :: addresses).foldl zeroAddress (Text.lower code)
  | _ => code

end Code

end BytecodeParity
