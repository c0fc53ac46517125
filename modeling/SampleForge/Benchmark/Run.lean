import SampleForge.Benchmark.Passes
import SampleForge.Benchmark.SampleSearch

/-!
# Running a benchmark

A benchmark names a checker, a number of passes and the directories with samples.  `Benchmark.run` first
settles what can be wrong before a checker is started, in this order: the number of passes, a checker
that does not exist, a directory that cannot be listed, no sample at all.  Then it times the passes.
The file system, the start of programs and the clock are parameters.
-/

namespace SampleForge

open Files

/-- What a benchmark is asked to do. -/
structure Benchmark where
  /-- The checker, started as `tool check sample`. -/
  tool : String
  runs : UInt32
  /-- The directories with samples, in order. -/
  dirs : List String
deriving DecidableEq

/-- What a benchmark needs of the system around it. -/
structure BenchmarkHost (m : Type → Type) where
  view : DirectoryView m
  exists? : String → m Bool
  /-- Starts a program with arguments and waits for its end. -/
  start : String → List String → m (Except OsError ExitStatus)
  /-- Nanoseconds since a fixed moment. -/
  clock : m Nat

variable {m : Type → Type} [Monad m]

/-- Judges a sample by starting `tool check sample`; only the code zero is a success. -/
def judgeWith (start : String → List String → m (Except OsError ExitStatus)) (tool sample : String) :
    m (Except BenchmarkError Unit) := do
  match ← start tool ["check", sample] with
  | .error error => pure (.error (.notStarted tool error))
  | .ok (.code 0) => pure (.ok ())
  | .ok (.code code) => pure (.error (.rejected sample (some code)))
  | .ok (.signal _) => pure (.error (.rejected sample none))

namespace Benchmark

def default : Benchmark where
  tool := "build/linux-debug/curlee"
  runs := 1
  dirs := ["tests/run"]

/-- Checks the number of passes and that the checker exists. -/
def check (exists? : String → m Bool) (benchmark : Benchmark) : m (Except BenchmarkError Unit) :=
  if benchmark.runs = 0 then pure (.error (.tooFewRuns benchmark.runs))
  else do
    if ← exists? benchmark.tool then pure (.ok ())
    else pure (.error (.missingTool benchmark.tool))

/-- Checks a benchmark, finds its samples and times the passes. -/
def run (host : BenchmarkHost m) (benchmark : Benchmark) : m (Except BenchmarkError Timing) := do
  match ← benchmark.check host.exists? with
  | .error error => pure (.error error)
  | .ok () =>
    match ← findSamples host.view benchmark.dirs with
    | .error error => pure (.error error)
    | .ok samples =>
      if samples.isEmpty then pure (.error .nothingToJudge)
      else timePasses ⟨judgeWith host.start benchmark.tool, host.clock⟩ samples benchmark.runs

end Benchmark
end SampleForge
