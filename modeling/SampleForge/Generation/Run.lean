import SampleForge.Generation.Request
import SampleForge.Corpus.Writer
import SampleForge.Files.OsError
import SampleForge.Files.Path

/-!
# Generating files

`SampleRequest.carryOut` checks a request, makes the output directory, grows the samples, writes them one
after another and writes the corpus file last.  It ends at the first operation that fails.  The paths of
the samples are noted down as their files are written.  What carries out an operation is a parameter;
nothing is assumed about it, and it is asked for nothing else.
-/

namespace SampleForge

open Files

/-- An operation on files. -/
inductive FileOperation where
  | makeDirs (path : String)
  | write (path text : String)
deriving DecidableEq

def FileOperation.path : FileOperation → String
  | .makeDirs path => path
  | .write path _ => path

/-- Why generating ended early. -/
inductive GenerationError where
  | request (cause : RequestError)
  | notWritten (path : String) (error : OsError)
deriving DecidableEq

def GenerationError.message : GenerationError → String
  | .request cause => cause.message
  | .notWritten path error => "failed to write " ++ path ++ ": " ++ error.message

/-- The files a request has written. -/
structure WrittenFiles where
  samplePaths : List String
  corpusPath : String
deriving DecidableEq

namespace SampleRequest

/-- The samples a request asks for. -/
def samples? (request : SampleRequest) : Option (List Sample) :=
  grownSamples? request.count request.seed request.growth

/-- Where a sample is written. -/
def samplePath (request : SampleRequest) (sample : Sample) : String :=
  joinPath request.outDir sample.fileName

/-- The text of the corpus file of a request's samples. -/
def corpusContent (request : SampleRequest) (samples : List Sample) : String :=
  writeCorpus request.seed request.count samples

end SampleRequest

section CarryOut

variable {m : Type → Type} [Monad m] (perform : FileOperation → m (Except OsError Unit))

/-- Writes a file; an error is reported with the path. -/
def writeFile (path text : String) : m (Except GenerationError Unit) := do
  match ← perform (.write path text) with
  | .error error => pure (.error (.notWritten path error))
  | .ok () => pure (.ok ())

namespace SampleRequest

/-- Writes samples in order until one fails.  The paths of the files that are already written are
given, the latest first, and the paths of all files in the order of writing come back. -/
def writeSamples (request : SampleRequest) :
    (written : List String) → List Sample → m (Except GenerationError (List String))
  | written, [] => pure (.ok written.reverse)
  | written, sample :: rest => do
    let path := request.samplePath sample
    match ← writeFile perform path sample.program with
    | .error cause => pure (.error cause)
    | .ok () => request.writeSamples (path :: written) rest

/-- Writes the samples of a request and then its corpus file. -/
def writeFiles (request : SampleRequest) (samples : List Sample) :
    m (Except GenerationError WrittenFiles) := do
  match ← request.writeSamples perform [] samples with
  | .error cause => pure (.error cause)
  | .ok samplePaths =>
    match ← writeFile perform request.corpusPath (request.corpusContent samples) with
    | .error cause => pure (.error cause)
    | .ok () => pure (.ok ⟨samplePaths, request.corpusPath⟩)

/-- Makes the directory of a request, grows its samples and writes its files. -/
def makeFiles (request : SampleRequest) : m (Except GenerationError WrittenFiles) := do
  match ← perform (.makeDirs request.outDir) with
  | .error error => pure (.error (.notWritten request.outDir error))
  | .ok () =>
    match request.samples? with
    | none => pure (.error (.request (.growthFault .emptyLiteralRange)))
    | some samples => request.writeFiles perform samples

/-- Checks a request and makes its files. -/
def carryOut (request : SampleRequest) : m (Except GenerationError WrittenFiles) :=
  match request.check with
  | .error cause => pure (.error (.request cause))
  | .ok () => request.makeFiles perform

end SampleRequest
end CarryOut

end SampleForge
