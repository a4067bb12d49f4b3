import BytecodeParity.Files.Tree
import BytecodeParity.Hex
import BytecodeParity.Http.Exchange
import BytecodeParity.Json.Printer
import BytecodeParity.Network
/-!
# Failures

The causes for which a run ends early, their wording, and which of them are the fault of the
input.
-/

namespace BytecodeParity

/-- Why a run cannot go on. -/
inductive Failure where
  | configMissing
  | addressFileMissing (path : String)
  | noEndpointForChain (chainId : Nat)
  | noEndpointForNetwork (network : Network)
  | malformedHash (fault : Hex.Fault)
  | unknownContract (name : String)
  | noCommand
  /-- The codes compared are not the same. -/
  | codesDiffer (count : Nat)
  | homeUnknown
  | file (fault : Files.Fault)
  | json (fault : Json.Fault)
  | numeral (fault : Numeral.Fault)
  | communication (fault : Http.Fault)
  /-- A node answered with an error of its own. -/
  | nodeError (error : Json)
  | nodeGaveNothing
  | chainIdNotText

/-- Who is to blame for a failure. -/
inductive Failure.Kind where
  /-- Configuration, address files or arguments. -/
  | invalidInput
  /-- The world outside. -/
  | outside
  deriving DecidableEq, Repr

namespace Failure

/-- Who is to blame. -/
def kind : Failure → Kind
  | configMissing => .invalidInput
  | addressFileMissing _ => .invalidInput
  | noEndpointForChain _ => .invalidInput
  | noEndpointForNetwork _ => .invalidInput
  | malformedHash _ => .invalidInput
  | unknownContract _ => .invalidInput
  | noCommand => .invalidInput
  | codesDiffer _ => .invalidInput
  | _ => .outside

/-- The wording of a failure. -/
def message : Failure → String
  | configMissing => "Config File not found. See --help for more info."
  | addressFileMissing path => "Address file " ++ path ++ " not found."
  | noEndpointForChain id => "No rpc url found in config for chain id " ++ toString id ++ "."
  | noEndpointForNetwork network => "No RPC endpoint configured for " ++ network.name
  | malformedHash fault => "Hex Parse Error: " ++ fault.message
  | unknownContract name => "Unknown contract " ++ name ++ "."
  | noCommand => "No subcommand given. See --help."
  | codesDiffer count => toString count ++ " byte(s) differ."
  | homeUnknown => "Home directory used in path, but not found"
  | file fault => "IO error occurred: " ++ fault.message
  | json fault => "JSON error occurred: " ++ fault.message
  | numeral fault => "Could not parse hex: " ++ fault.message
  | communication fault => "Communication error occurred: " ++ fault.message
  | nodeError error => "Web3Error: " ++ error.inspect
  | nodeGaveNothing => "No result for web3 request."
  | chainIdNotText => "eth_chainId did not return a string"

end Failure

end BytecodeParity
