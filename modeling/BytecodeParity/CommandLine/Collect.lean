import BytecodeParity.Abi.Lookup
import BytecodeParity.CommandLine.World
import BytecodeParity.Settings.Loading
import BytecodeParity.Report.Summary
/-!
# Collecting interfaces

The command that looks up the interface of every contract of a deployment and writes each one found
into a file of its own. A dry run looks up the same interfaces and writes nothing.
-/

namespace BytecodeParity.Collect

/-- What to collect and from where. -/
structure Options where
  /-- Where to find the settings. -/
  config : Option String
  /-- The directory with the address book. -/
  addressDirectory : String
  /-- The directory with the source repositories. -/
  artifactsRoot : Option String
  dryRun : Bool
  deriving DecidableEq, Repr

/-! ## Files -/

/-- The directory into which interfaces are written. -/
def abiDirectory (o : Options) : String := Path.join o.addressDirectory "abis"

/-- The file for the interface of a contract. -/
def abiFile (o : Options) (name : String) : String := Path.join (abiDirectory o) (name ++ ".json")

/-- Writes a JSON value into a file and makes the directories in which it lies. The tree comes with
what was made, also after a failure. -/
def writeJson (fs : Files.Tree) (path : String) (value : Json) :
    Files.Tree × Except Files.Fault Unit :=
  let (fs, made) :=
    match Path.parent? path with
    | some parent => fs.makeDirectories parent
    | none => (fs, .ok ())
  match made with
  | .error e => (fs, .error e)
  | .ok () =>
    match fs.write path (value.pretty ++ "\n").toUTF8 with
    | .ok fs => (fs, .ok ())
    | .error e => (fs, .error e)

/-! ## One contract -/

/-- How far collecting has come. -/
structure Progress where
  files : Files.Tree
  lines : List String
  /-- The contracts looked up and what came of each. -/
  findings : List (String × Abi.Finding)
  requests : List Http.Request

/-- The lines that announce a contract. -/
def announcement (colours : Bool) (name : String) (address : Option String) : List String :=
  ("\n" ++ Style.bold.paint colours name) ::
    match address with
    | some a => ["  Address: " ++ a]
    | none => []

/-- The line about what came of a contract. -/
def findingLine (colours dryRun : Bool) : Abi.Finding → String
  | .skipped => "  " ++ Style.yellow.paint colours "[SKIP]" ++ " proxy/library"
  | .failed => "  " ++ Style.red.paint colours "[FAIL]" ++ " Could not fetch ABI"
  | .fetched origin _ =>
    "  " ++ Style.green.paint colours "[OK]" ++
      (if dryRun then " Would write ABI from " else " Saved from ") ++ origin.describe

/-- Writes what was found for a contract, if anything was and it is to be written. -/
def save (fs : Files.Tree) (o : Options) (name : String) :
    Abi.Finding → Files.Tree × Except Files.Fault Unit
  | .fetched _ abi => if o.dryRun then (fs, .ok ()) else writeJson fs (abiFile o name) abi
  | _ => (fs, .ok ())

/-- Looks up and writes the interfaces of contracts, one after the other, up to the first one that
cannot be written. -/
def collectFrom (colours : Bool) (servers : Http.Servers) (o : Options) (places : Abi.Places)
    (book : AddressBook) : List String → Progress → Progress × Option Failure
  | [], p => (p, none)
  | name :: names, p =>
    let address := book.deployedAddress? name
    let lookup := Abi.lookUp p.files servers places name address
    let announced :=
      { p with
        lines := p.lines ++ announcement colours name address
        requests := p.requests ++ lookup.requests }
    match save p.files o name lookup.result with
    | (fs, .error e) => ({ announced with files := fs }, some (.file e))
    | (fs, .ok ()) =>
      collectFrom colours servers o places book names
        { announced with
          files := fs
          lines := announced.lines ++ [findingLine colours o.dryRun lookup.result]
          findings := p.findings ++ [(name, lookup.result)] }

/-! ## The summary -/

/-- What there is to do where build artifacts are missing. -/
def buildHints : List String :=
  [ "cd ../v3-core && yarn compile",
    "cd ../v3-periphery && yarn compile",
    "cd ../swap-router-contracts && yarn compile",
    "cd ../v3-staker && yarn compile",
    "cd ../universal-router && forge build" ]

/-- The contracts fetched and where from. -/
def fetched (findings : List (String × Abi.Finding)) : List (String × Abi.Origin) :=
  findings.filterMap fun f =>
    match f.2 with
    | .fetched origin _ => some (f.1, origin)
    | _ => none

/-- The contracts that were not looked up. -/
def skipped (findings : List (String × Abi.Finding)) : List String :=
  findings.filterMap fun f =>
    match f.2 with
    | .skipped => some f.1
    | _ => none

/-- The contracts without an interface. -/
def failed (findings : List (String × Abi.Finding)) : List String :=
  findings.filterMap fun f =>
    match f.2 with
    | .failed => some f.1
    | _ => none

/-- Contracts as a list under a heading, if there are any. -/
def listed (heading : String) (names : List String) : List String :=
  if names.isEmpty then []
  else ("\n" ++ heading ++ ": " ++ toString names.length) :: names.map fun n => "  - " ++ n

/-- What can be done about contracts without an interface. -/
def hints (hasKey : Bool) (names : List String) : List String :=
  if names.isEmpty then []
  else
    (if names.contains Abi.permitContract && !hasKey then
      [ "\nHint: For Permit2, set ETHERSCAN_API_KEY env var (free at etherscan.io)",
        "  ETHERSCAN_API_KEY=your-key fetch-abis -c env" ]
      else []) ++
      "\nHint: For other contracts, run builds in the source repos:" ::
        buildHints.map fun h => "  " ++ h

/-- The summary in print. -/
def summaryLines (o : Options) (hasKey : Bool) (findings : List (String × Abi.Finding)) :
    List String :=
  let found := fetched findings
  ["", String.ofList (List.replicate 60 '='), "Summary", "",
    "Fetched: " ++ toString found.length] ++
    (found.map fun f => "  - " ++ f.1 ++ " (" ++ f.2.describe ++ ")") ++
    listed "Skipped" (skipped findings) ++ listed "Failed" (failed findings) ++
    hints hasKey (failed findings) ++
    if o.dryRun then [] else ["\nABIs written to: " ++ abiDirectory o]

/-! ## The command -/

/-- What is printed before anything is read. -/
def opening (colours : Bool) (o : Options) : List String :=
  if o.dryRun then [Style.cyan.paint colours "[DRY RUN]" ++ " No files will be written\n"] else []

/-- What is printed about the deployment. -/
def deploymentLines (book : AddressBook) : List String :=
  [ "Loading contracts from " ++ book.chainName.getD "unknown chain" ++ " (Chain ID: " ++
      toString (book.chainId.getD Network.testnet.chainId) ++ ")",
    "Explorer: " ++ book.blockExplorer.getD "none" ++ "\n" ]

/-- The directory with the source repositories: the one given, else that of the settings, else the
one next to the directory with the address book. -/
def artifactsRoot (fs : Files.Tree) (settings : Settings) (o : Options) :
    Except Failure String :=
  match o.artifactsRoot <|> settings.artifactsRoot with
  | some root => .ok root
  | none => do
    let directory ← (fs.canonicalize o.addressDirectory).mapError .file
    .ok ((Path.parent? directory).getD "..")

/-- What a run that got so far has collected. -/
structure Collection where
  progress : Progress
  ending : Ending

/-- Collects the interfaces of a deployment with these settings. The environment only decides on
colours. -/
def collect (w : World) (environment : Environment) (settings : Settings) (o : Options) :
    Collection :=
  let colours := Style.forcedBy environment
  let start : Progress := ⟨w.files, opening colours o, [], []⟩
  let stop (p : Progress) (f : Failure) : Collection :=
    ⟨p, p.lines, some f, p.files, environment⟩
  match AddressBook.ofDirectory w.files o.addressDirectory .testnet with
  | .error f => stop start f
  | .ok book =>
    let start := { start with lines := start.lines ++ deploymentLines book }
    match artifactsRoot w.files settings o with
    | .error f => stop start f
    | .ok root =>
      let places : Abi.Places := ⟨root, book.blockExplorer, settings.etherscanKey⟩
      match collectFrom colours w.servers o places book (Abi.contractsToLookUp book) start with
      | (p, some f) => stop p f
      | (p, none) =>
        let lines := p.lines ++ summaryLines o settings.etherscanKey.isSome p.findings
        ⟨p, lines, none, p.files, environment⟩

/-- Runs the command. -/
def run (w : World) (o : Options) : Ending :=
  match Settings.select w.files w.environment o.config with
  | (environment, .error f) => ⟨[], some f, w.files, environment⟩
  | (environment, .ok settings) => (collect w environment settings o).ending

end BytecodeParity.Collect
