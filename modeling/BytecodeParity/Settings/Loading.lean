import BytecodeParity.Environment
import BytecodeParity.Settings.Basic
/-!
# Where settings come from

Settings are read from a file, from the environment, or from whichever of the usual places has
them, and they are written to a file. A path that begins with a tilde begins at the home directory.
Reading the environment may add to it, so the environment comes back with the settings, also when
there are none.
-/

namespace BytecodeParity.Settings

/-- Where the settings file is looked for first. -/
def usualFile : String := "~/.bcv_config.json"

/-- Where the settings file is looked for next. -/
def localFile : String := "bcv_config.json"

/-- A path with a leading tilde replaced by the home directory. -/
def expandHome (env : Environment) (path : String) : Except Failure String :=
  match path.toList with
  | '~' :: t =>
    match env.home? with
    | none => .error .homeUnknown
    | some home =>
      let rest := String.ofList (t.dropWhile (· == '/'))
      .ok (if rest = "" then home else Path.join home rest)
  | _ => .ok path

/-- The settings in a file. A key that the file leaves out is taken from the environment. -/
def ofFile (fs : Files.Tree) (env : Environment) (path : String) : Except Failure Settings := do
  if !fs.pathExists path then throw .configMissing
  let s ← parse (← (fs.readText path).mapError .file)
  let etherscanKey := s.etherscanKey <|> env.get? "ETHERSCAN_API_KEY"
  match s.artifactsRoot with
  | none => .ok { s with etherscanKey }
  | some root => .ok { s with etherscanKey, artifactsRoot := some (← expandHome env root) }

/-- The variables that name endpoints, and their chains. -/
def endpointVariables : List (String × Nat) :=
  [("ETHEREUM_RPC", ethereumChainId), ("MEGAETH_TESTNET_RPC", Network.testnet.chainId),
    ("MEGAETH_MAINNET_RPC", Network.mainnet.chainId)]

/-- The default settings, changed by whatever the environment says. -/
def ofVariables (env : Environment) : Except Failure Settings := do
  let rpcUrls :=
    endpointVariables.foldl
      (fun urls (name, chainId) =>
        match env.get? name with
        | some url => OrderedMap.insert chainId url urls
        | none => urls)
      default.rpcUrls
  let timeout ←
    match env.get? "WEB3_TIMEOUT" with
    | some t => (Numeral.read 10 UInt64.size t.toList).mapError .numeral
    | none => .ok default.timeout
  .ok ⟨rpcUrls, env.get? "ETHERSCAN_API_KEY", timeout, env.get? "ARTIFACTS_ROOT"⟩

/-- The settings of the environment, to which the nearest file `.env` adds. -/
def ofEnvironment (fs : Files.Tree) (env : Environment) : Environment × Except Failure Settings :=
  let env := env.load fs
  (env, ofVariables env)

/-- The path of the settings file that is looked for first. -/
def usualPath (env : Environment) : String :=
  match expandHome env usualFile with
  | .ok path => path
  | .error _ => localFile

/-- The settings of the first of the usual places that has any. -/
def ofUsualPlaces (fs : Files.Tree) (env : Environment) :
    Environment × Except Failure Settings :=
  if fs.pathExists (usualPath env) then (env, ofFile fs env (usualPath env))
  else if fs.pathExists localFile then (env, ofFile fs env localFile)
  else ofEnvironment fs env

/-- The settings that the command line asks for: those of the environment, of a file, or of the
usual places. -/
def select (fs : Files.Tree) (env : Environment) : Option String →
    Environment × Except Failure Settings
  | none => ofUsualPlaces fs env
  | some "env" => ofEnvironment fs env
  | some path => (env, do ofFile fs env (← expandHome env path))

/-- Writes settings to a file, replacing what it held. -/
def save (fs : Files.Tree) (path : String) (s : Settings) : Except Failure Files.Tree :=
  (fs.write path s.render.toUTF8).mapError .file

end BytecodeParity.Settings
