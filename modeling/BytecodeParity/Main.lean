import BytecodeParity.CommandLine.Reach
/-!
# The command line

Brings in what a run can touch, runs the program of the name under which it was called, writes the
files that it left behind, and prints. No server is reached from here: requests get no reply.
-/

namespace BytecodeParity.CommandLine

/-- What stands at a place on disk. -/
def entryAt (place : List String) : IO (Option Files.Entry) := do
  match ← (IO.FS.readBinFile (Path.ofNames true place)).toBaseIO with
  | .ok content => return some (.file content)
  | .error (.inappropriateType ..) => return some .directory
  | .error _ => return none

/-- Brings in a file and the directories in which it lies. -/
def bringIn (fs : Files.Tree) (path : String) : IO Files.Tree := do
  let origin := if Path.isAbsolute path then [] else fs.workingDirectory
  let place := (Path.names path).foldl
    (fun here n =>
      if n = "." then here else if n = ".." then here.dropLast else here ++ [n]) origin
  let mut fs := fs
  for n in List.range place.length do
    let part := place.take (n + 1)
    if (fs.entry? part).isNone then
      if let some e ← entryAt part then
        fs := fs.put part e
  return fs

/-- Writes what a run has made or changed. -/
def writeOut (before after : Files.Tree) : IO Unit := do
  for (place, e) in after.entries do
    let path := Path.ofNames true place
    match e, before.entry? place with
    | .directory, none => IO.FS.createDir path
    | .file content, some (.file old) =>
      if content != old then IO.FS.writeBinFile path content
    | .file content, _ => IO.FS.writeBinFile path content
    | _, _ => pure ()

/-- The variables that a run looks at. -/
def environment : IO Environment := do
  let mut env : Environment := []
  for name in Reach.variableNames do
    if let some value ← IO.getEnv name then
      env := OrderedMap.insert name value env
  return env

/-- The world as a run finds it. -/
def world (arguments : List String) : IO World := do
  let directory := Path.names (toString (← IO.currentDir))
  let mut fs : Files.Tree := ⟨[], directory⟩
  let env ← environment
  for path in Reach.first ⟨fs, env, fun _ => none⟩ arguments do
    fs ← bringIn fs path
  for path in Reach.second ⟨fs, env, fun _ => none⟩ arguments do
    fs ← bringIn fs path
  return ⟨fs, env, fun _ => none⟩

/-- Whether the program was called to collect interfaces. -/
def isCollecting : IO Bool := do
  let name := (Path.names (toString (← IO.appPath))).getLast?
  return name == some "fetch-abis"

end BytecodeParity.CommandLine

open BytecodeParity

/-- Runs the program of the name under which it was called. -/
def main (arguments : List String) : IO UInt32 := do
  let w ← CommandLine.world arguments
  let exit :=
    if ← CommandLine.isCollecting then Program.runCollecting w arguments
    else Program.runComparing w arguments
  CommandLine.writeOut w.files exit.files
  IO.print exit.stdout
  IO.eprint exit.stderr
  return exit.status.toUInt32
