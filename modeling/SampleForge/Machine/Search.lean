import SampleForge.Files.OsError
import SampleForge.Files.Path

/-!
# Looking for a program

A name with a separator is a path; any other name is looked for in the directories of the search path,
one after another.  What makes a path one that can be started is a parameter.
-/

namespace SampleForge.Machine

open Files

/-- The paths under which a program is looked for. -/
def candidates (searchPath : List String) (program : String) : List String :=
  if program.toList.contains separator then [program]
  else if program = "" then []
  else searchPath.map fun dir => joinPath dir program

/-- Whether looking goes on after an error. -/
def isMissing (error : OsError) : Bool :=
  error = .notFound || error = .notDirectory

/-- Tries paths until one can be started.  A file that may not be executed is passed over, but then the
search does not end with a milder error. -/
def tryAll {m : Type → Type} [Monad m] {α : Type} (attempt : String → m (Except OsError α))
    (denied : Bool) (last : OsError) : List String → m (Except OsError α)
  | [] => pure (.error (if denied then .permissionDenied else last))
  | path :: rest => do
    match ← attempt path with
    | .ok found => pure (.ok found)
    | .error error =>
      if error = .permissionDenied then tryAll attempt true last rest
      else if isMissing error then tryAll attempt denied error rest
      else pure (.error error)

/-- Looks for a program. -/
def searchProgram {m : Type → Type} [Monad m] {α : Type}
    (attempt : String → m (Except OsError α)) (searchPath : List String) (program : String) :
    m (Except OsError α) :=
  tryAll attempt false .notFound (candidates searchPath program)

end SampleForge.Machine
