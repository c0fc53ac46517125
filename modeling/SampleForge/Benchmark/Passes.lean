import SampleForge.Benchmark.Error
import SampleForge.Benchmark.Timing

/-!
# Timed passes

`timePasses` lets a checker judge every sample in order, once per pass, and times the passes.  The first
failure ends everything, and no timing is reported then.  The checker and the clock are parameters; the
clock is read before and after each pass and at no other time.
-/

namespace SampleForge

/-- What runs the passes. -/
structure PassRunner (m : Type → Type) where
  /-- Judges one sample and waits for the verdict. -/
  judge : String → m (Except BenchmarkError Unit)
  /-- Nanoseconds since a fixed moment. -/
  clock : m Nat

variable {m : Type → Type} [Monad m]

/-- Judges samples in order until one fails. -/
def judgeAll (judge : String → m (Except BenchmarkError Unit)) :
    List String → m (Except BenchmarkError Unit)
  | [] => pure (.ok ())
  | sample :: rest => do
    match ← judge sample with
    | .error error => pure (.error error)
    | .ok () => judgeAll judge rest

/-- The time between two readings of the clock. -/
def elapsed (start finish : Nat) : Duration :=
  (Duration.ofNanos? (finish - start)).getD .zero

/-- Runs the remaining passes; `done` holds the durations of the earlier ones, last first. -/
def timeRemaining (runner : PassRunner m) (samples : List String) :
    (remaining : Nat) → (done : List Duration) → m (Except BenchmarkError Timing)
  | 0, done => pure (.ok ⟨samples.length, done.reverse⟩)
  | remaining + 1, done => do
    let start ← runner.clock
    match ← judgeAll runner.judge samples with
    | .error error => pure (.error error)
    | .ok () =>
      let finish ← runner.clock
      timeRemaining runner samples remaining (elapsed start finish :: done)

/-- Runs full passes over the samples. -/
def timePasses (runner : PassRunner m) (samples : List String) (runs : UInt32) :
    m (Except BenchmarkError Timing) :=
  if runs = 0 then pure (.error (.tooFewRuns runs))
  else if samples.isEmpty then pure (.error .nothingToJudge)
  else timeRemaining runner samples runs.toNat []

end SampleForge
