import SampleForge.Settings.Sections
import SampleForge.Generation.Run
import SampleForge.Benchmark.Error
import SampleForge.Corpus.Writer

/-!
# Why the program fails

A failure is reported with a message and, where something else is behind it, with the text of that as
its cause.
-/

namespace SampleForge.Program

open Files

/-- Why a command line that can be carried out comes to nothing. -/
inductive Failure where
  | settings (cause : SettingsError)
  | generation (cause : GenerationError)
  | benchmark (cause : BenchmarkError)
  /-- The passes took longer than a duration can be. -/
  | timeOverflow
  | unreadableCorpus (path : String) (cause : ReadError)
  | invalidCorpus (path : String) (cause : CorpusFault)

namespace Failure

def message : Failure → String
  | settings cause => cause.message
  | generation cause => cause.message
  | benchmark cause => cause.message
  | timeOverflow => "overflow when adding durations"
  | unreadableCorpus path _ => "failed to open dataset " ++ path
  | invalidCorpus path _ => "invalid dataset " ++ path

/-- What is behind a failure. -/
def cause? : Failure → Option String
  | settings (.unreadable _ error) => some error.message
  | settings (.misfit _ cause) => some cause.message
  | settings _ => none
  | generation (.notWritten _ error) => some error.message
  | generation _ => none
  | benchmark cause => cause.osError?.map OsError.message
  | timeOverflow => none
  | unreadableCorpus _ error => some error.message
  | invalidCorpus _ cause => some cause.message

/-- The report of a failure. -/
def report (failure : Failure) : String :=
  "Error: " ++ failure.message ++ "\n" ++
    match failure.cause? with
    | none => ""
    | some cause => "\nCaused by:\n    " ++ cause ++ "\n"

end Failure
end SampleForge.Program
