import SampleForge.CommandLine.Invocation
import SampleForge.CommandLine.Usage
import SampleForge.Corpus.Reader
import SampleForge.Program.Failure

/-!
# The program

`run` reads a command line and carries its command out on a host, which is all that the program needs
of the system around it.  What the program prints and the code it ends with are its outcome: 0 for
success, 1 for a failure, 2 for a command line that cannot be carried out.
-/

namespace SampleForge.Program

open CommandLine Files

/-- The operations of the system that the program uses. -/
structure Host (m : Type → Type) where
  readText : String → m (Except ReadError String)
  /-- Carries out an operation on files. -/
  perform : FileOperation → m (Except OsError Unit)
  /-- What benchmarks use. -/
  benchmark : BenchmarkHost m

/-- What a run of the program comes to. -/
structure Outcome where
  exit : Nat
  out : String
  err : String
deriving DecidableEq

/-- The outcome of a command line that is not carried out. -/
def refusal (error : UsageError) : Outcome :=
  if error.exitCode = 0 then ⟨0, error.message, ""⟩ else ⟨error.exitCode, "", error.message⟩

/-- The text of a timing in a format. -/
def showTiming? (format : ReportFormat) (timing : Timing) : Option String :=
  match format with
  | .text => timing.text?
  | .json => timing.json?

/-- What a verified corpus is reported as. -/
def corpusLine (corpus : Corpus) : String :=
  "ok: seed=" ++ toString corpus.header.seed.toInt ++ " count=" ++
    toString corpus.header.count.toNat ++ "\n"

/-- Reads the text of a corpus file and checks its promise. -/
def checkCorpus (path text : String) : Except Failure String := do
  let corpus ← (readCorpus text).mapError (.invalidCorpus path)
  corpus.checkCount.mapError (.invalidCorpus path)
  pure (corpusLine corpus)

variable {m : Type → Type} [Monad m]

/-- Carries `generate` out, which prints nothing. -/
def generateCommand (host : Host m) (request : SampleRequest) : m (Except Failure String) := do
  match ← request.carryOut host.perform with
  | .error cause => pure (.error (.generation cause))
  | .ok _ => pure (.ok "")

/-- Carries `bench` out, which prints the timing. -/
def benchCommand (host : Host m) (config : Benchmark) (format : ReportFormat) :
    m (Except Failure String) := do
  match ← config.run host.benchmark with
  | .error cause => pure (.error (.benchmark cause))
  | .ok timing =>
    match showTiming? format timing with
    | none => pure (.error .timeOverflow)
    | some text => pure (.ok (text ++ "\n"))

/-- Carries `verify` out, which prints the header of the corpus. -/
def verifyCommand (host : Host m) (path : String) : m (Except Failure String) := do
  match ← host.readText path with
  | .error cause => pure (.error (.unreadableCorpus path cause))
  | .ok text => pure (checkCorpus path text)

/-- The settings of a file, or none if there is no file. -/
def loadSettings (host : Host m) : Option String → m (Except Failure HarnessSettings)
  | none => pure (.ok .unset)
  | some path => do
    let content ← host.readText path
    pure ((settingsOfFile path content).mapError .settings)

/-- Carries a command out. -/
def runCommand (host : Host m) (settings : HarnessSettings) :
    Command → m (Except Failure String)
  | .generate flags => generateCommand host (flags.complete settings.generate)
  | .bench flags => benchCommand host (flags.complete settings.bench) flags.format
  | .verify flags => verifyCommand host (flags.complete settings.generate)

/-- Carries out what a command line asks for. -/
def execute (host : Host m) (invocation : Invocation) : m (Except Failure String) := do
  match ← loadSettings host invocation.config with
  | .error failure => pure (.error failure)
  | .ok settings => runCommand host settings invocation.command

/-- The program, from the words after its name to its outcome. -/
def run (host : Host m) (words : List String) : m Outcome := do
  match Invocation.read words with
  | .error error => pure (refusal error)
  | .ok invocation =>
    match ← execute host invocation with
    | .error failure => pure ⟨1, "", failure.report⟩
    | .ok text => pure ⟨0, text, ""⟩

end SampleForge.Program
