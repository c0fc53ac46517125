import SampleForge.Files.OsError

/-!
# Why a benchmark ends early

Four causes are found before any checker is started and count as errors of the configuration; the
other two come from starting a checker and from its verdict.
-/

namespace SampleForge

open Files

/-- Why a benchmark ended without a result. -/
inductive BenchmarkError where
  | missingTool (path : String)
  | nothingToJudge
  | tooFewRuns (runs : UInt32)
  | unlistedDirectory (path : String) (error : OsError)
  | notStarted (tool : String) (error : OsError)
  /-- A checker that ended without success; there is no code when a signal ended it. -/
  | rejected (sample : String) (code : Option Int)
deriving DecidableEq

/-- How a checker ended. -/
def exitText : Option Int → String
  | some code => "exit code " ++ toString code
  | none => "terminated by signal"

namespace BenchmarkError

def message : BenchmarkError → String
  | missingTool path => "curlee binary not found: " ++ path
  | nothingToJudge => "no samples found"
  | tooFewRuns runs => "runs must be >= 1, got " ++ toString runs.toNat
  | unlistedDirectory path error =>
    "failed to list sample directory " ++ path ++ ": " ++ error.message
  | notStarted tool error => "failed to spawn " ++ tool ++ ": " ++ error.message
  | rejected sample code => "check failed for " ++ sample ++ " (" ++ exitText code ++ ")"

/-- Whether the cause lies in the configuration and was found before any checker was started. -/
def isConfiguration : BenchmarkError → Bool
  | missingTool _ | nothingToJudge | tooFewRuns _ | unlistedDirectory .. => true
  | notStarted .. | rejected .. => false

/-- The error of the operating system behind the cause. -/
def osError? : BenchmarkError → Option OsError
  | unlistedDirectory _ error | notStarted _ error => some error
  | _ => none

end BenchmarkError
end SampleForge
