import BytecodeParity.CommandLine.Programs
/-!
# What a run can touch

A run works on a file system that is a value. Before it starts, the files that it can touch have
to be brought in. They follow from the arguments and from what was brought in before: settings name
the directory with the build artifacts, and an address book names the files for interfaces.
-/

namespace BytecodeParity.Reach

/-- The variables that a run looks at. -/
def variableNames : List String :=
  ["HOME", "ETHEREUM_RPC", "MEGAETH_TESTNET_RPC", "MEGAETH_MAINNET_RPC", "ETHERSCAN_API_KEY",
    "WEB3_TIMEOUT", "ARTIFACTS_ROOT", "CLICOLOR_FORCE", "NO_COLOR"]

/-- The texts within an argument that may be paths. -/
def pathsWithin (argument : String) : List String :=
  let t := argument.toList
  let behindEquals := (t.dropWhile (· != '=')).tail
  [t, behindEquals, t.drop 1, behindEquals.drop 1, t.drop 2].map String.ofList

/-- The paths that arguments name, home directories filled in, and the working directory. -/
def named (env : Environment) (arguments : List String) : List String :=
  "." :: (arguments.flatMap pathsWithin).filterMap fun p =>
    (Settings.expandHome env p).toOption.filter fun p => p != ""

/-- The files for settings and variables. -/
def settingsFiles (fs : Files.Tree) (env : Environment) : List String :=
  Settings.usualPath env :: Settings.localFile ::
    (List.range (fs.workingDirectory.length + 1)).map fun n =>
      Path.ofNames true (fs.workingDirectory.take n ++ [".env"])

/-- The files that can be read in any case. -/
def first (w : World) (arguments : List String) : List String :=
  let places := named w.environment arguments
  settingsFiles w.files w.environment ++ places ++
    places.flatMap fun p => Network.all.map fun n => Path.join p n.addressFile

/-- The files that collecting with these options can read or write. -/
def collected (w : World) (o : Collect.Options) : List String :=
  match Settings.select w.files w.environment o.config with
  | (_, .error _) => []
  | (_, .ok settings) =>
    let artifacts :=
      match Collect.artifactsRoot w.files settings o with
      | .ok root => Abi.artifacts.map fun a => a.2.file root
      | .error _ => []
    match AddressBook.ofDirectory w.files o.addressDirectory .testnet with
    | .ok book => artifacts ++ (Abi.contractsToLookUp book).map (Collect.abiFile o)
    | .error _ => artifacts

/-- The files that the collecting program can touch in addition. -/
def second (w : World) (arguments : List String) : List String :=
  match Arguments.read Program.collecting arguments with
  | .ok given => collected w (Program.collectOptions given)
  | .error _ => []

end BytecodeParity.Reach
