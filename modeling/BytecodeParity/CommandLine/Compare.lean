import BytecodeParity.CommandLine.World
import BytecodeParity.Node
import BytecodeParity.Report.Summary
import BytecodeParity.Settings.Loading
/-!
# Comparing a deployment

The command that compares a whole deployment with the canonical one, code for code as the nodes of
both chains tell it. Only what is needed to start can make it fail.
-/

namespace BytecodeParity.Compare

/-- Which deployment to compare. -/
structure Options where
  /-- Where to find the settings. -/
  config : Option String
  network : Network
  /-- The directory with the address books. -/
  addressDirectory : String
  deriving DecidableEq, Repr

/-- What a comparison starts from. -/
structure Plan where
  deployment : Deployment
  /-- The endpoint of the chain with the canonical deployment. -/
  referenceEndpoint : String
  deriving DecidableEq, Repr

/-- Settles what a comparison starts from. -/
def plan (fs : Files.Tree) (settings : Settings) (o : Options) : Except Failure Plan := do
  let book ← AddressBook.ofDirectory fs o.addressDirectory o.network
  let deployment ← Deployment.resolve settings o.network book
  let referenceEndpoint ← settings.endpoint ethereumChainId
  .ok ⟨deployment, referenceEndpoint⟩

/-- The codes that the node at an endpoint tells. -/
def nodeSource (servers : Http.Servers) (endpoint : String) : Code.Source := fun address =>
  (Node.code servers endpoint address).result.mapError Failure.message

/-- What comes of asking the nodes. -/
structure Findings where
  /-- The chain that the node of the deployment belongs to. -/
  chainId : Except Failure Nat
  contracts : List ContractReport
  hashes : List HashReport

/-- Asks the nodes of both chains whatever a comparison has to know. -/
def ask (servers : Http.Servers) (p : Plan) : Findings :=
  let d := p.deployment
  let deployed := nodeSource servers d.rpcUrl
  let reference := nodeSource servers p.referenceEndpoint
  { chainId := (Node.chainId servers d.rpcUrl).result
    contracts := (d.run deployed reference (fun (_ : Unit) _ => ()) ()).1
    hashes := d.verifyPoolHashes deployed }

/-- A warning if the node belongs to another chain than expected. A node that does not tell its
chain is taken as it is. -/
def chainLines (colours : Bool) (d : Deployment) : Except Failure Nat → List String
  | .error _ => []
  | .ok chainId =>
    if chainId = d.chainId then []
    else
      [ Style.yellow.paint colours "[WARN]" ++ " RPC reports chain id " ++ toString chainId ++
          ", expected " ++ toString d.chainId ]

/-- What is printed at the end. -/
def closing : List String := ["", Report.heavyRule, "Comparison complete", Report.heavyRule]

/-- The comparison in print. -/
def report (colours : Bool) (d : Deployment) (f : Findings) : List String :=
  d.banner ++ chainLines colours d f.chainId ++
    f.contracts.flatMap (ContractReport.lines colours d.network.name) ++
    Report.hashLines colours f.hashes ++ Report.summaryLines colours f.contracts ++ closing

/-- What is printed at the start. -/
def opening (o : Options) : String := "Loading " ++ o.network.name ++ " addresses..."

/-- Runs the command, the nodes being asked in the way that is given. -/
def runAsking (ask : Plan → Findings) (w : World) (o : Options) : Ending :=
  match Settings.select w.files w.environment o.config with
  | (environment, .error f) => ⟨[], some f, w.files, environment⟩
  | (environment, .ok settings) =>
    match plan w.files settings o with
    | .error f => ⟨[opening o], some f, w.files, environment⟩
    | .ok p =>
      { lines := opening o :: report (Style.forcedBy environment) p.deployment (ask p)
        failure := none
        files := w.files
        environment := environment }

/-- Runs the command. -/
def run (w : World) (o : Options) : Ending := runAsking (ask w.servers) w o

end BytecodeParity.Compare
