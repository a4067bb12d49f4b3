import BytecodeParity.Failure
import BytecodeParity.Json.Record
/-!
# Settings

Where chains are reached, how long to wait for them, and what is needed to look up interfaces.
Whatever a file leaves out has a default.
-/

namespace BytecodeParity

/-- The settings of a run. -/
structure Settings where
  /-- The endpoint of each chain, by chain id. -/
  rpcUrls : OrderedMap Nat String
  etherscanKey : Option String
  /-- Seconds to wait for a reply. -/
  timeout : Nat
  /-- The directory that holds the source repositories with their build artifacts. -/
  artifactsRoot : Option String
  deriving DecidableEq, Repr

namespace Settings

/-- The settings that hold if nothing is said. -/
def default : Settings where
  rpcUrls := [(1, "https://eth.llamarpc.com"), (6343, "https://timothy.megaeth.com/rpc")]
  etherscanKey := none
  timeout := 60
  artifactsRoot := none

/-- The endpoint of a chain. -/
def endpoint (s : Settings) (chainId : Nat) : Except Failure String :=
  match OrderedMap.find? chainId s.rpcUrls with
  | some url => .ok url
  | none => .error (.noEndpointForChain chainId)

/-! ## As text -/

/-- How settings are written. -/
def layout : Json.Reader.Layout Settings where
  title := "struct BcvConfig"
  initial := default
  fields :=
    let depth := Json.Reader.depthLimit - 1
    [ ⟨"rpc_urls", false, false, fun s => do
        let rpcUrls ←
          Json.Reader.map depth Json.Reader.nat64Name (Json.Reader.text "a string")
        return { s with rpcUrls }⟩,
      ⟨"etherscan_api_key", false, false, fun s => do
        let etherscanKey ← Json.Reader.optional (Json.Reader.text "a string")
        return { s with etherscanKey }⟩,
      ⟨"web3_timeout", false, false, fun s => do
        return { s with timeout := ← Json.Reader.nat64 }⟩,
      ⟨"artifacts_root", false, false, fun s => do
        let artifactsRoot ← Json.Reader.optional (Json.Reader.text "path string")
        return { s with artifactsRoot }⟩ ]

/-- The settings that a text holds. -/
def parse (text : String) : Except Failure Settings := (layout.parse text).mapError .json

/-- A text that may be missing as a JSON value. -/
def optionalText : Option String → Json
  | some t => .string t
  | none => .null

/-- The settings as a JSON value. -/
def toJson (s : Settings) : Json :=
  .object
    [ ("rpc_urls", .object (s.rpcUrls.map fun e => (toString e.1, .string e.2))),
      ("etherscan_api_key", optionalText s.etherscanKey),
      ("web3_timeout", .number (.integer s.timeout)),
      ("artifacts_root", optionalText s.artifactsRoot) ]

/-- The settings as the text of a file. -/
def render (s : Settings) : String := s.toJson.pretty

end Settings

end BytecodeParity
