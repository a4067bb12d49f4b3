/-!
# Paths

A path is a text in which slashes separate names. It is absolute if it begins with a slash and is
else taken from the working directory. Empty names count for nothing.
-/

namespace BytecodeParity.Path

/-- Whether a path starts at the root. -/
def isAbsolute (path : String) : Bool := path.toList.head? == some '/'

/-- Whether a path ends in a slash, so that it can only be a directory. -/
def endsInSlash (path : String) : Bool := path.toList.getLast? == some '/'

/-- The names of a path, those for "here" and "up" included. -/
def names (path : String) : List String :=
  ((path.toList.splitOn '/').map String.ofList).filter fun n => n != ""

/-- The names of a path that lead anywhere. At the front of a path that is not absolute the name
for "here" is kept, so that something is left of it. -/
def steps (path : String) : List String :=
  match names path with
  | [] => []
  | first :: rest =>
    let rest := rest.filter fun n => n != "."
    if first == "." && isAbsolute path then rest else first :: rest

/-- The path made of these names. -/
def ofNames (absolute : Bool) (names : List String) : String :=
  (if absolute then "/" else "") ++ "/".intercalate names

/-- The path without its last name. The root and the empty path have no parent. -/
def parent? (path : String) : Option String :=
  match steps path with
  | [] => none
  | ns => some (ofNames (isAbsolute path) ns.dropLast)

/-- The path to `rest` as seen from `base`. -/
def join (base rest : String) : String :=
  if isAbsolute rest || base == "" then rest
  else if endsInSlash base then base ++ rest
  else base ++ "/" ++ rest

end BytecodeParity.Path
