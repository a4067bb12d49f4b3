import BytecodeParity.Files.Path
import BytecodeParity.OrderedMap
/-!
# Files and directories

The files that a run reads and writes, as a value. Each file and directory stands under the names
that lead to it from the root, so that what a run has written can be read off the map. Operations
fail for the reasons for which a file system refuses them.
-/

namespace BytecodeParity.Files

/-- Why a file system refuses an operation. -/
inductive Fault where
  | notFound
  | notDirectory
  | isDirectory
  | exists
  | nameTooLong
  /-- The path holds a zero byte. -/
  | zeroByte
  /-- The content of the file is no text. -/
  | notText
  deriving DecidableEq, Repr

/-- The wording of a fault. -/
def Fault.message : Fault → String
  | .notFound => "No such file or directory (os error 2)"
  | .notDirectory => "Not a directory (os error 20)"
  | .isDirectory => "Is a directory (os error 21)"
  | .exists => "File exists (os error 17)"
  | .nameTooLong => "File name too long (os error 36)"
  | .zeroByte => "file name contained an unexpected NUL byte"
  | .notText => "stream did not contain valid UTF-8"

/-- What stands at a place. -/
inductive Entry where
  | file (content : ByteArray)
  | directory

/-- A file system. -/
structure Tree where
  /-- What stands where, the root apart. -/
  entries : OrderedMap (List String) Entry
  /-- Where paths that are not absolute begin. -/
  workingDirectory : List String

namespace Tree

/-- What stands at a place. The root is a directory. -/
def entry? (fs : Tree) (place : List String) : Option Entry :=
  if place.isEmpty then some .directory else OrderedMap.find? place fs.entries

/-- Puts something at a place. -/
def put (fs : Tree) (place : List String) (e : Entry) : Tree :=
  { fs with entries := OrderedMap.insert place e fs.entries }

/-! ## From paths to places -/

/-- Greatest size of a name in bytes. -/
def nameLimit : Nat := 255

/-- Paths of this size in bytes or more are refused. -/
def pathLimit : Nat := 4096

/-- Follows names from a place. All places passed have to be directories; what stands at the last
one is not looked at. -/
def follow (fs : Tree) : List String → List String → Except Fault (List String)
  | place, [] => .ok place
  | place, name :: names =>
    match fs.entry? place with
    | none => .error .notFound
    | some (.file _) => .error .notDirectory
    | some .directory =>
      if name = "." then follow fs place names
      else if name = ".." then follow fs place.dropLast names
      else if nameLimit < name.utf8ByteSize then .error .nameTooLong
      else follow fs (place ++ [name]) names

/-- The place where a path begins, if it is a path at all. -/
def start (fs : Tree) (path : String) : Except Fault (List String) :=
  if path.toList.contains '\x00' then .error .zeroByte
  else if path = "" then .error .notFound
  else if pathLimit ≤ path.utf8ByteSize then .error .nameTooLong
  else .ok (if Path.isAbsolute path then [] else fs.workingDirectory)

/-- The place of something that exists, and what it is. -/
def locate (fs : Tree) (path : String) : Except Fault (List String × Entry) := do
  let origin ← fs.start path
  let place ← fs.follow origin (Path.names path ++ if Path.endsInSlash path then ["."] else [])
  match fs.entry? place with
  | some e => .ok (place, e)
  | none => .error .notFound

/-- Where something can be made: the place of the directory in which the last name of a path lies,
and that name, if there is one to be made. -/
def slot (fs : Tree) (path : String) : Except Fault (List String × Option String) := do
  let origin ← fs.start path
  match (Path.names path).getLast? with
  | none => .ok ([], none)
  | some last =>
    let place ← fs.follow origin ((Path.names path).dropLast ++ ["."])
    if last = "." ∨ last = ".." then .ok (place, none)
    else if nameLimit < last.utf8ByteSize then .error .nameTooLong
    else .ok (place, some last)

/-! ## Reading -/

/-- Whether a path leads to anything. -/
def pathExists (fs : Tree) (path : String) : Bool := (fs.locate path).isOk

/-- Whether a path leads to a directory. -/
def isDirectory (fs : Tree) (path : String) : Bool :=
  match fs.locate path with
  | .ok (_, .directory) => true
  | _ => false

/-- Whether a path leads to a file. -/
def isFile (fs : Tree) (path : String) : Bool :=
  match fs.locate path with
  | .ok (_, .file _) => true
  | _ => false

/-- The content of a file. -/
def read (fs : Tree) (path : String) : Except Fault ByteArray := do
  match ← fs.locate path with
  | (_, .file content) => .ok content
  | (_, .directory) => .error .isDirectory

/-- The content of a file that is text. -/
def readText (fs : Tree) (path : String) : Except Fault String := do
  match String.fromUTF8? (← fs.read path) with
  | some t => .ok t
  | none => .error .notText

/-- The absolute path without detours that leads to the same place. -/
def canonicalize (fs : Tree) (path : String) : Except Fault String := do
  let (place, _) ← fs.locate path
  .ok (Path.ofNames true place)

/-! ## Writing -/

/-- Writes a file, replacing what it held. -/
def write (fs : Tree) (path : String) (content : ByteArray) : Except Fault Tree := do
  match ← fs.slot path with
  | (_, none) => .error .isDirectory
  | (place, some name) =>
    if Path.endsInSlash path then .error .isDirectory
    else
      match fs.entry? (place ++ [name]) with
      | some .directory => .error .isDirectory
      | _ => .ok (fs.put (place ++ [name]) (.file content))

/-- Makes a directory. -/
def makeDirectory (fs : Tree) (path : String) : Except Fault Tree := do
  match ← fs.slot path with
  | (_, none) => .error .exists
  | (place, some name) =>
    match fs.entry? (place ++ [name]) with
    | some _ => .error .exists
    | none => .ok (fs.put (place ++ [name]) .directory)

/-- Makes a directory and, as far as they are missing, those in which it lies. The fuel bounds how
many. The tree comes with what was made, also after a failure. -/
def makeDirectoriesUpTo : Nat → Tree → String → Tree × Except Fault Unit
  | 0, fs, _ => (fs, .error .notFound)
  | fuel + 1, fs, path =>
    if path = "" then (fs, .ok ())
    else
      match fs.makeDirectory path with
      | .ok fs => (fs, .ok ())
      | .error .notFound =>
        match Path.parent? path with
        | none => (fs, .error .notFound)
        | some parent =>
          match makeDirectoriesUpTo fuel fs parent with
          | (fs, .error e) => (fs, .error e)
          | (fs, .ok ()) =>
            match fs.makeDirectory path with
            | .ok fs => (fs, .ok ())
            | .error e => if fs.isDirectory path then (fs, .ok ()) else (fs, .error e)
      | .error e => if fs.isDirectory path then (fs, .ok ()) else (fs, .error e)

/-- Makes a directory and those in which it lies. It may exist already. -/
def makeDirectories (fs : Tree) (path : String) : Tree × Except Fault Unit :=
  makeDirectoriesUpTo ((Path.names path).length + 2) fs path

end Tree

end BytecodeParity.Files
