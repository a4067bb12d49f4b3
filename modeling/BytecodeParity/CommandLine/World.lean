import BytecodeParity.Environment
import BytecodeParity.Failure
import BytecodeParity.Report.Style
/-!
# Commands and the world

A command finds files, variables and servers, and leaves behind what it printed, the files, and
the failure that ended it, if one did.
-/

namespace BytecodeParity

/-- What a command finds. -/
structure World where
  files : Files.Tree
  environment : Environment
  servers : Http.Servers

/-- What a command leaves behind. -/
structure Ending where
  /-- The lines printed. -/
  lines : List String
  failure : Option Failure
  files : Files.Tree
  /-- The variables, to which loading settings may have added. -/
  environment : Environment

namespace Ending

/-- The exit status. -/
def status (e : Ending) : Nat := if e.failure.isSome then 1 else 0

/-- How the line about a failure begins. -/
def failureStart (invalidInput : String) : Failure.Kind → String
  | .invalidInput => invalidInput
  | .outside => "Error occurred:"

/-- The lines printed and the line about the failure, which begins with `invalidInput` if the input
is to blame. -/
def allLines (invalidInput : String) (e : Ending) : List String :=
  let colours := Style.forcedBy e.environment
  e.lines ++
    match e.failure with
    | none => []
    | some f =>
      [ Style.yellow.paint colours (failureStart invalidInput f.kind) ++ " " ++
          Style.yellow.paint colours f.message ]

end Ending

end BytecodeParity
