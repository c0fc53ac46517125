import SampleForge.Files.Directories
import SampleForge.Machine.Executable
import SampleForge.Program.Run
import SampleForge.Shell.Run

/-!
# The program on a real system

The operations of the program's host, carried out on real files.  Nothing is decided here.  Checkers
are shell scripts and are run in place; a compiled program is refused with `OsError.badFormat`.
-/

namespace SampleForge.RealSystem

open Files

/-- An error number, from a code that may be its negative in two's complement. -/
def errorNumber (code : UInt32) : OsError :=
  .number (if code < 2147483648 then code else 0 - code).toNat

/-- The error number of a failed operation. -/
def osErrorOf : IO.Error → OsError
  | .alreadyExists _ code _ | .otherError code _ | .resourceBusy code _ | .resourceVanished code _
  | .unsupportedOperation code _ | .hardwareFault code _ | .unsatisfiedConstraints code _
  | .illegalOperation code _ | .protocolError code _ | .timeExpired code _ | .interrupted _ code _
  | .noFileOrDirectory _ code _ | .invalidArgument _ code _ | .permissionDenied _ code _
  | .resourceExhausted _ code _ | .inappropriateType _ code _ | .noSuchThing _ code _ =>
    errorNumber code
  | .unexpectedEof | .userError _ => .number 5

/-- Runs an operation and keeps its error. -/
def attempt {α : Type} (operation : IO α) : IO (Except OsError α) := do
  try
    return .ok (← operation)
  catch error =>
    return .error (osErrorOf error)

/-- A path as the operations of the system take it. -/
def entry (path : String) : IO.FS.DirEntry := ⟨path, ""⟩

/-- What kind of file a path names, links followed. -/
def kind? (path : String) : IO (Option IO.FS.FileType) := do
  match ← attempt (entry path).root.metadata with
  | .ok metadata => return some metadata.type
  | .error _ => return none

def isDirectory (path : String) : IO Bool := return (← kind? path) == some .dir

def isRegularFile (path : String) : IO Bool := return (← kind? path) == some .file

def isPresent (path : String) : IO Bool := return (← kind? path).isSome

def readText (path : String) : IO (Except ReadError String) := do
  match ← attempt (IO.FS.readBinFile path) with
  | .error error => return .error (.os error)
  | .ok content =>
    match String.fromUTF8? content with
    | some text => return .ok text
    | none => return .error .notUtf8

def directoryMaker : DirectoryMaker IO where
  make path := attempt (IO.FS.createDir path)
  isDirectory := isDirectory

def perform : FileOperation → IO (Except OsError Unit)
  | .makeDirs path => directoryMaker.makeAll path
  | .write path text => attempt (IO.FS.writeFile path text)

def directoryView : DirectoryView IO where
  isDirectory := isDirectory
  entries path := do
    let found ← attempt (entry path).root.readDir
    return found.map fun entries => entries.toList.map fun e => e.fileName
  isRegularFile := isRegularFile

def scriptHost : Shell.ScriptHost IO where
  put path fresh text :=
    attempt (IO.FS.withFile path (if fresh then .write else .append) fun handle =>
      handle.putStr text)
  print
    | .out, text => IO.print text
    | .err, text => IO.eprint text
  holds
    | .present, path => isPresent path
    | .regularFile, path => isRegularFile path
    | .directory, path => isDirectory path

/-- A script on its way into a shell. -/
structure Script where
  path : String
  option : String
  text : String

/-- The script at a path, if it can be started. -/
def script? (path : String) : IO (Except OsError Script) := do
  if ← isDirectory path then return .error .permissionDenied
  match ← attempt (IO.FS.readBinFile path) with
  | .error error => return .error error
  | .ok content =>
    match Machine.interpreter? content with
    | some interpreter =>
      if ← isPresent interpreter.path then
        return .ok ⟨path, interpreter.shellOption, Machine.scriptText content⟩
      else return .error .notFound
    | none => return .error .badFormat

/-- The directories of the search path. -/
def searchPath : IO (List String) := do
  match ← IO.getEnv "PATH" with
  | some dirs => return dirs.splitOn ":"
  | none => return ["/bin", "/usr/bin"]

def start (program : String) (arguments : List String) : IO (Except OsError ExitStatus) := do
  match ← Machine.searchProgram script? (← searchPath) program with
  | .error error => return .error error
  | .ok script =>
    return .ok (← Shell.runScript scriptHost script.option script.path arguments script.text)

def host : Program.Host IO where
  readText := readText
  perform := perform
  benchmark :=
    { view := directoryView
      exists? := isPresent
      start := start
      clock := IO.monoNanosNow }

end SampleForge.RealSystem

open SampleForge in
def main (words : List String) : IO UInt32 := do
  let outcome ← Program.run RealSystem.host words
  IO.print outcome.out
  IO.eprint outcome.err
  return UInt32.ofNat outcome.exit
