import BytecodeParity.CommandLine.Arguments
import BytecodeParity.CommandLine.Collect
import BytecodeParity.CommandLine.Compare
import BytecodeParity.CommandLine.Diff
/-!
# The two programs

One program compares codes and deployments, the other collects interfaces. Here their arguments are
described and turned into the options of their commands.
-/

namespace BytecodeParity

/-- What a program leaves behind. -/
structure Exit where
  status : Nat
  stdout : String
  stderr : String
  files : Files.Tree

namespace Program

open Arguments

/-! ## Values -/

/-- Takes any value. -/
def anything (_ : String) : Option ValueFault := none

/-- Takes any value that is not empty. -/
def somePath (v : String) : Option ValueFault := if v = "" then some .missing else none

/-- Takes the name of a network. -/
def networkName (v : String) : Option ValueFault :=
  if v = "" then some .missing
  else if (Network.ofName? v).isSome then none
  else some .unknown

/-- Takes the path of a directory. -/
def directory (fs : Files.Tree) (v : String) : Option ValueFault :=
  if fs.isDirectory v then none else some (.rejected "The path provided is not a directory")

/-- Takes 32 bytes in hexadecimal digits. -/
def bytes32 (v : String) : Option ValueFault :=
  let body := Hex.body v.toList
  if Text.byteSize body ≠ 64 then
    some (.rejected ("Argument " ++ v ++ " needs to be 32 bytes long."))
  else
    (Hex.fault? body).map fun f =>
      .rejected ("Argument " ++ v ++ " is not hex: " ++ f.message)

/-! ## Grammars -/

/-- An option with a value, shown with this name for the value. -/
def valued (name shown : String) (short : Option Char) (required : Bool)
    (check : String → Option ValueFault) : Parameter where
  name := name
  display := "--" ++ name ++ " <" ++ shown ++ ">"
  long := some name
  short := short
  action := .value check
  required := required

/-- An option without a value. -/
def bare (name : String) (short : Option Char) (action : Action) : Parameter where
  name := name
  display :=
    match action with
    | .count => "--" ++ name ++ "..."
    | _ => "--" ++ name
  long := some name
  short := short
  action := action
  required := false

/-- The arguments in front of the commands of the comparing program. -/
def comparing : Grammar where
  options :=
    [ bare "verbose" (some 'v') .count, valued "config" "config" (some 'c') false anything,
      helpOption, versionOption ]
  positional := none
  commands := ["compare", "diff"]

/-- The arguments of the command that compares a deployment. -/
def comparingDeployment (fs : Files.Tree) : Grammar where
  options :=
    [ valued "addresses-dir" "addresses-dir" none false (directory fs), helpOption ]
  positional := some ⟨"network", "[network]", none, none, .value networkName, false⟩
  commands := []

/-- The arguments of the command that compares two codes. -/
def comparingCodes : Grammar where
  options :=
    [ valued "deployed" "deployed" none true anything,
      valued "reference" "reference" none true anything,
      valued "contract" "contract" none false anything,
      valued "addresses" "addresses" none false somePath,
      valued "pool-init-code-hash" "pool-init-code-hash" none false bytes32,
      bare "allow-expected" none .flag, bare "json" none .flag, helpOption ]
  positional := none
  commands := []

/-- The arguments of a command of the comparing program. -/
def comparingCommand (fs : Files.Tree) (command : String) : Grammar :=
  if command = "compare" then comparingDeployment fs else comparingCodes

/-- The arguments of the collecting program. -/
def collecting : Grammar where
  options :=
    [ valued "config" "FILE" (some 'c') false anything,
      valued "addresses-dir" "DIR" none false somePath,
      valued "artifacts-root" "DIR" none false somePath,
      bare "dry-run" none .flag, bare "verbose" (some 'v') .flag, helpOption, versionOption ]
  positional := none
  commands := []

/-! ## Options -/

/-- The value given for a parameter. -/
def value? (given : Given) (name : String) : Option String := OrderedMap.find? name given

/-- Whether a parameter was given. -/
def isGiven (given : Given) (name : String) : Bool := (value? given name).isSome

/-- The options of the command that compares a deployment. -/
def compareOptions (above given : Given) : Compare.Options where
  config := value? above "config"
  network := ((value? given "network").bind Network.ofName?).getD .testnet
  addressDirectory := (value? given "addresses-dir").getD "."

/-- The options of the command that compares two codes. -/
def diffOptions (given : Given) : Diff.Options where
  deployed := (value? given "deployed").getD ""
  reference := (value? given "reference").getD ""
  contract := (value? given "contract").getD ""
  addresses := value? given "addresses"
  poolInitCodeHash :=
    (value? given "pool-init-code-hash").map fun h => Text.lower (Hex.body h.toList)
  allowExpected := isGiven given "allow-expected"
  json := isGiven given "json"

/-- The options of the collecting program. -/
def collectOptions (given : Given) : Collect.Options where
  config := value? given "config"
  addressDirectory := (value? given "addresses-dir").getD "."
  artifactsRoot := value? given "artifacts-root"
  dryRun := isGiven given "dry-run"

/-! ## Running -/

/-- The name and version that the programs tell. -/
def versionLine : String := "bcv 0.3.0"

/-- Whether a variable is set to something. -/
def isSet (env : Environment) (name : String) : Bool := ((env.get? name).getD "") != ""

/-- Whether messages about arguments are coloured. -/
def colouredFaults (env : Environment) : Bool :=
  isSet env "CLICOLOR_FORCE" && !isSet env "NO_COLOR"

/-- What a program leaves behind that did not get to run a command. -/
def stopped (w : World) (usage : String) : Stop → Exit
  | .fault f => ⟨2, "", f.print (colouredFaults w.environment), w.files⟩
  | .help => ⟨0, usage ++ "\n", "", w.files⟩
  | .version => ⟨0, versionLine ++ "\n", "", w.files⟩

/-- What a program leaves behind that ran a command. -/
def ended (invalidInput : String) (e : Ending) : Exit :=
  ⟨e.status, Report.printed (e.allLines invalidInput), "", e.files⟩

/-- How to call the comparing program. -/
def comparingUsage : String := "Usage: bcv [OPTIONS] [COMMAND]"

/-- How to call the collecting program. -/
def collectingUsage : String := "Usage: fetch-abis [OPTIONS]"

/-- Runs a command of the comparing program. -/
def runCommand (w : World) (above : Given) : Option (String × Given) → Ending
  | some ("compare", given) => Compare.run w (compareOptions above given)
  | some ("diff", given) => Diff.run w (diffOptions given)
  | _ => ⟨[], some .noCommand, w.files, w.environment⟩

/-- Reads the arguments of the comparing program. -/
def readComparing (fs : Files.Tree) (arguments : List String) :
    Except Stop (Given × Option (String × Given)) :=
  readWithCommands comparing (comparingCommand fs) arguments

/-- How the comparing program begins the line about a failure for which the input is to blame. -/
def comparisonFailed : String := "Error. Comparison failed:"

/-- Runs the comparing program. -/
def runComparing (w : World) (arguments : List String) : Exit :=
  match readComparing w.files arguments with
  | .error stop => stopped w comparingUsage stop
  | .ok (above, command) => ended comparisonFailed (runCommand w above command)

/-- Runs the collecting program. -/
def runCollecting (w : World) (arguments : List String) : Exit :=
  match read collecting arguments with
  | .error stop => stopped w collectingUsage stop
  | .ok given => ended "Invalid input:" (Collect.run w (collectOptions given))

end Program

end BytecodeParity
