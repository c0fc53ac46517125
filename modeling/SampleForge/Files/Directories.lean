import SampleForge.Files.OsError
import SampleForge.Files.Path

/-!
# Making a directory with its parents

A directory is made first, and only if something on the way to it is missing are its parents made.  A
failure does not count when the path is a directory after all.  Making one directory and asking for one
are parameters.
-/

namespace SampleForge.Files

/-- What making directories asks of a file system. -/
structure DirectoryMaker (m : Type → Type) where
  /-- Makes one directory whose parent is there. -/
  make : String → m (Except OsError Unit)
  isDirectory : String → m Bool

namespace DirectoryMaker

variable {m : Type → Type} [Monad m]

/-- Forgives a failure if the path is a directory. -/
def forgive (maker : DirectoryMaker m) (path : String) (error : OsError) :
    m (Except OsError Unit) := do
  if ← maker.isDirectory path then pure (.ok ()) else pure (.error error)

/-- Makes a directory whose parents are there. -/
def makeLast (maker : DirectoryMaker m) (path : String) : m (Except OsError Unit) := do
  match ← maker.make path with
  | .ok () => pure (.ok ())
  | .error error => maker.forgive path error

/-- Makes a directory with at most the given number of parents; the empty path needs none. -/
def makeUpTo (maker : DirectoryMaker m) : Nat → String → m (Except OsError Unit)
  | 0, path => if path = "" then pure (.ok ()) else maker.makeLast path
  | parents + 1, path => do
    if path = "" then pure (.ok ())
    else
      match ← maker.make path with
      | .ok () => pure (.ok ())
      | .error error =>
        match if error = .notFound then parentPath? path else none with
        | none => maker.forgive path error
        | some parent =>
          match ← makeUpTo maker parents parent with
          | .error error => pure (.error error)
          | .ok () => maker.makeLast path

/-- Makes a directory and the parents it lacks. -/
def makeAll (maker : DirectoryMaker m) (path : String) : m (Except OsError Unit) :=
  maker.makeUpTo (components path).names.length path

end DirectoryMaker
end SampleForge.Files
