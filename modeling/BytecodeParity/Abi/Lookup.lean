import BytecodeParity.Abi.Catalog
/-!
# Looking up interfaces

The interface of a contract is looked up in up to three places: its build artifact, the registry
of published sources, and the block explorer of the deployment. The first place that has it wins,
and whatever goes wrong in one place only leads on to the next.
-/

namespace BytecodeParity.Abi

/-- Where an interface was found. -/
inductive Origin where
  | artifact (repository : String)
  | etherscan
  | explorer
  deriving DecidableEq, Repr

/-- How reports call an origin. -/
def Origin.describe : Origin → String
  | artifact repository => repository ++ " artifacts"
  | etherscan => "Etherscan mainnet (canonical)"
  | explorer => "block explorer"

/-- What came of looking up an interface. -/
inductive Finding where
  | fetched (origin : Origin) (abi : Json)
  /-- The contract is one of those not looked up. -/
  | skipped
  | failed

/-- Where interfaces are looked up. -/
structure Places where
  /-- The directory that holds the source repositories. -/
  artifactsRoot : String
  explorer : Option String
  etherscanKey : Option String
  deriving DecidableEq, Repr

/-! ## Build artifacts -/

/-- The interface in a build artifact, if there is a readable artifact with one. -/
def ofArtifactFile (fs : Files.Tree) (path : String) : Option Json := do
  let content ← (fs.readText path).toOption
  let artifact ← (Json.parse content).toOption
  artifact.presentMember? "abi"

/-- The interface in the build artifact of a contract. -/
def ofArtifact (fs : Files.Tree) (places : Places) (name : String) : Option Finding := do
  let a ← artifact? name
  let abi ← ofArtifactFile fs (a.file places.artifactsRoot)
  some (.fetched (.artifact a.repository) abi)

/-! ## Published sources -/

/-- What the registry of published sources answers. -/
structure Published where
  status : String
  result : Json

/-- How the registry writes its answers. -/
def publishedLayout : Json.Reader.Layout Published where
  title := "struct EtherscanResponse"
  initial := ⟨"", .null⟩
  fields :=
    [ ⟨"status", true, true, fun p => do
        return { p with status := ← Json.Reader.text "a string" }⟩,
      ⟨"result", false, false, fun p => do
        return { p with result := ← Json.Reader.value (Json.Reader.depthLimit - 1) }⟩ ]

/-- The address at which the registry is asked for the permit contract. -/
def publishedAddress (key : Option String) : String :=
  "https://api.etherscan.io/v2/api?chainid=1&module=contract&action=getabi&address=" ++
    permitAddress ++
    match key with
    | some k => "&apikey=" ++ k
    | none => ""

/-- The interface in the body of an answer: the text of a result with status one. -/
def readPublished (body : String) : Option Json := do
  let answer ← (publishedLayout.parse body).toOption
  if answer.status = "1" then (Json.parse (← answer.result.text?)).toOption else none

/-! ## Block explorers -/

/-- The address at which an explorer is asked for a contract. -/
def explorerAddress (explorer address : String) : String :=
  String.ofList ((explorer.toList.reverse.dropWhile (· == '/')).reverse) ++
    "/api/v2/smart-contracts/" ++ address

/-- The interface in the body of an answer. -/
def readExplorer (body : String) : Option Json := do
  (← (Json.parse body).toOption).presentMember? "abi"

/-! ## The order of the places -/

/-- Asks a server for an interface. Only a reply of success is read. -/
def fetch (servers : Http.Servers) (address : String) (read : String → Option Json) :
    Http.Exchange (Option Json) :=
  let exchange := Http.send servers .get address none
  { requests := exchange.requests
    result := do
      let reply ← exchange.result.toOption
      if reply.isSuccess then read reply.content else none }

/-- The interface of the permit contract as it was published. No other contract is asked for. -/
def ofPublished (servers : Http.Servers) (places : Places) (name : String) :
    Http.Exchange (Option Finding) :=
  if name = permitContract then
    let exchange := fetch servers (publishedAddress places.etherscanKey) readPublished
    ⟨exchange.result.map (.fetched .etherscan), exchange.requests⟩
  else ⟨none, []⟩

/-- The interface of the contract at an address as the block explorer knows it, if there are an
explorer and an address. -/
def ofExplorer (servers : Http.Servers) (places : Places) (address : Option String) :
    Http.Exchange (Option Finding) :=
  match places.explorer.filter fun e => e != "", address with
  | some explorer, some address =>
    let exchange := fetch servers (explorerAddress explorer address) readExplorer
    ⟨exchange.result.map (.fetched .explorer), exchange.requests⟩
  | _, _ => ⟨none, []⟩

/-- Looks up the interface of a contract, place by place. -/
def lookUp (fs : Files.Tree) (servers : Http.Servers) (places : Places) (name : String)
    (address : Option String) : Http.Exchange Finding :=
  if skipped.contains name then ⟨.skipped, []⟩
  else
    match ofArtifact fs places name with
    | some finding => ⟨finding, []⟩
    | none =>
      let published := ofPublished servers places name
      match published.result with
      | some finding => ⟨finding, published.requests⟩
      | none =>
        let explored := ofExplorer servers places address
        ⟨explored.result.getD .failed, published.requests ++ explored.requests⟩

end BytecodeParity.Abi
