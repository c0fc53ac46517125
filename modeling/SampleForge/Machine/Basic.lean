import SampleForge.Files.Directories
import SampleForge.Machine.Executable
import SampleForge.Program.Run
import SampleForge.Shell.Run

/-!
# A computer kept in memory

A `Computer` has a file system, a search path for programs and the text its programs have printed.  A
`Loader` is the part of its system that executes files: it answers the request for a path, and runs what
it has found there.  What kinds of programs there are and what they do is open, but what is started under
a path is the file that the path leads to.

`host` lets the program run on a computer: files are those of the store, checkers are shell scripts in
it, and no time passes.
-/

namespace SampleForge.Machine

open Files Shell

structure Computer where
  store : Store
  /-- The directories in which programs without a separator in their name are looked for. -/
  searchPath : List String
  /-- What programs have printed to the output stream. -/
  out : String
  /-- What programs have printed to the error stream. -/
  err : String

/-- A computation on a computer. -/
abbrev OnComputer := StateM Computer

/-- Looks at the store. -/
def inspect {α : Type} (f : Store → α) : OnComputer α := do
  pure (f (← get).store)

/-- Changes the store, unless that fails. -/
def change (f : Store → Except OsError Store) : OnComputer (Except OsError Unit) := do
  let computer ← get
  match f computer.store with
  | .error error => pure (.error error)
  | .ok store => do
    set { computer with store := store }
    pure (.ok ())

/-- Prints text. -/
def print (channel : Channel) (text : String) : OnComputer Unit :=
  modify fun computer =>
    match channel with
    | .out => { computer with out := computer.out ++ text }
    | .err => { computer with err := computer.err ++ text }

/-- Writes text at the end of a file, or into an emptied one. -/
def putText (path : String) (fresh : Bool) (text : String) (s : Store) : Except OsError Store :=
  match if fresh then .error .notFound else s.read path with
  | .ok content => s.write path (content ++ text.toUTF8)
  | .error _ => s.write path text.toUTF8

/-- Whether a test of scripts holds. -/
def testHolds (test : FileTest) (path : String) (s : Store) : Bool :=
  match test with
  | .present => s.exists? path
  | .regularFile => s.isRegularFile path
  | .directory => s.isDirectory path

def scriptHost : ScriptHost OnComputer where
  put path fresh text := change (putText path fresh text)
  print := print
  holds test path := inspect (testHolds test path)

/-- How a system executes files. -/
structure Loader where
  /-- The answer to a request to execute a path: the file that is started, or a refusal. -/
  answer : Computer → String → Except OsError Executable
  /-- What is started is the file that the path leads to. -/
  locate_of_answer : ∀ {computer : Computer} {path : String} {file : Executable},
    answer computer path = .ok file → computer.store.locate path = .ok file.location
  /-- Runs a started file with arguments until it ends. -/
  run : Executable → List String → OnComputer ExitStatus

/-- Scripts are started, and run by the shell. -/
def scriptLoader : Loader where
  answer computer path := executable? computer.store path
  locate_of_answer := locate_of_executable?
  run file arguments :=
    runScript scriptHost file.option file.path arguments (scriptText file.content)

/-- Whether a text may stand on a command line. -/
def isArgument (text : String) : Bool := !text.toList.contains '\x00'

/-- Starts a program and waits for its end. -/
def Loader.start (loader : Loader) (program : String) (arguments : List String) :
    OnComputer (Except OsError ExitStatus) := do
  if !(program :: arguments).all isArgument then pure (.error .nulInCommand)
  else
    let computer ← get
    match findExecutable (loader.answer computer) computer.searchPath program with
    | .error error => pure (.error error)
    | .ok file => do pure (.ok (← loader.run file arguments))

/-- Starts a script. -/
def start : String → List String → OnComputer (Except OsError ExitStatus) := scriptLoader.start

def directoryMaker : DirectoryMaker OnComputer where
  make path := change (·.makeDirectory path)
  isDirectory path := inspect (·.isDirectory path)

/-- Carries out an operation on files. -/
def perform : FileOperation → OnComputer (Except OsError Unit)
  | .makeDirs path => directoryMaker.makeAll path
  | .write path text => change (·.write path text.toUTF8)

def directoryView : DirectoryView OnComputer where
  isDirectory path := inspect (·.isDirectory path)
  entries path := inspect (·.entries path)
  isRegularFile path := inspect (·.isRegularFile path)

/-- A computer on which scripts are started. -/
def benchmarkHost : BenchmarkHost OnComputer where
  view := directoryView
  exists? path := inspect (·.exists? path)
  start := start
  clock := pure 0

/-- A computer on which files are started as the loader does. -/
def hostWith (loader : Loader) : BenchmarkHost OnComputer :=
  { benchmarkHost with start := loader.start }

theorem hostWith_scriptLoader : hostWith scriptLoader = benchmarkHost := rfl

/-- The program on a computer. -/
def host : Program.Host OnComputer where
  readText path := inspect (·.readText path)
  perform := perform
  benchmark := benchmarkHost

end SampleForge.Machine
