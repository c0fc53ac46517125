import SampleForge.Benchmark.Duration
import SampleForge.Numeric.Written

/-!
# The result of a benchmark

A finished benchmark knows the number of samples of a pass and how long every pass took.  Its average
is the total divided by the number of passes, rounded as doubles are at every step: seconds,
nanoseconds over a billion, their sum, the quotient.  There is no average when the total of the passes
is too long to be a duration.
-/

namespace SampleForge

open Numeric

/-- A span in seconds, as a double: the seconds, plus the nanoseconds over a billion. -/
def Duration.toSeconds (d : Duration) : Binary64 :=
  .add (.ofNat d.seconds.toNat) (.div (.ofNat d.nanos) (.ofNat nanosPerSecond))

/-- The outcome of a completed benchmark. -/
structure Timing where
  /-- Samples per pass. -/
  samples : Nat
  /-- How long the passes took, in order. -/
  passes : List Duration

namespace Timing

def runs (t : Timing) : Nat := t.passes.length

def total? (t : Timing) : Option Duration := Duration.sum? t.passes

/-- The average of a pass in seconds, zero if there was no pass. -/
def meanSeconds? (t : Timing) : Option Binary64 :=
  if t.passes.isEmpty then some (.ofNat 0)
  else t.total?.map fun total => .div total.toSeconds (.ofNat t.runs)

/-- The report line around the text of the average. -/
def lineAround (t : Timing) (average : String) : String :=
  "samples=" ++ toString t.samples ++ " runs=" ++ toString t.runs ++ " avg_seconds=" ++ average

/-- The report as one line, the average with four places. -/
def text? (t : Timing) : Option String :=
  t.meanSeconds?.map fun average => t.lineAround (fixed 4 (average.toRat?.getD 0))

/-- A list of items on lines of their own, as an array of a document indented by two. -/
def arrayText (items : List String) : String :=
  if items.isEmpty then "[]"
  else "[\n    " ++ String.intercalate ",\n    " items ++ "\n  ]"

/-- The report as a JSON document. -/
def json? (t : Timing) : Option String :=
  t.meanSeconds?.map fun average =>
    "\x7b\n  \"samples\": " ++ toString t.samples ++ ",\n  \"runs\": " ++ toString t.runs ++
      ",\n  \"avg_seconds\": " ++ average.write .report ++ ",\n  \"pass_seconds\": " ++
      arrayText (t.passes.map fun pass => pass.toSeconds.write .report) ++ "\n\x7d"

end Timing
end SampleForge
