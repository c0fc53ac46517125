import SampleForge.Benchmark.Error
import SampleForge.Files.Path
import SampleForge.Sample

/-!
# Finding samples

Every configured directory contributes the paths of the regular files in it whose extension is that of
samples, in the order of paths; directories follow one another as configured.  A path that is no
directory contributes nothing.  Subdirectories are not searched.  The file system is a parameter, and
it may list a directory in any order.
-/

namespace SampleForge

open Files

/-- What finding samples asks of a file system; links are followed. -/
structure DirectoryView (m : Type → Type) where
  isDirectory : String → m Bool
  /-- The names in a directory, in any order. -/
  entries : String → m (Except OsError (List String))
  isRegularFile : String → m Bool

section

variable {m : Type → Type} [Monad m]

/-- Whether a path is that of a sample. -/
def isSample (view : DirectoryView m) (path : String) : m Bool :=
  if extension? path = some Sample.extension then view.isRegularFile path else pure false

/-- Keeps the paths of samples. -/
def keepSamples (view : DirectoryView m) : List String → m (List String)
  | [] => pure []
  | path :: rest => do
    let found ← isSample view path
    let kept ← keepSamples view rest
    pure (if found then path :: kept else kept)

def sortPaths (paths : List String) : List String :=
  paths.mergeSort fun p q => !pathBefore q p

/-- The samples of one directory. -/
def samplesOf (view : DirectoryView m) (dir : String) :
    m (Except BenchmarkError (List String)) := do
  match ← view.entries dir with
  | .error error => pure (.error (.unlistedDirectory dir error))
  | .ok names =>
    let kept ← keepSamples view (names.map (joinPath dir))
    pure (.ok (sortPaths kept))

/-- The samples of the configured directories. -/
def findSamples (view : DirectoryView m) :
    List String → m (Except BenchmarkError (List String))
  | [] => pure (.ok [])
  | dir :: rest => do
    if ← view.isDirectory dir then
      match ← samplesOf view dir with
      | .error error => pure (.error error)
      | .ok found =>
        match ← findSamples view rest with
        | .error error => pure (.error error)
        | .ok others => pure (.ok (found ++ others))
    else findSamples view rest

end

end SampleForge
