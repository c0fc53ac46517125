import SampleForge.Sample
import SampleForge.Numeric.Written

/-!
# Requests for samples

A request says how many samples to grow, from which seed and how, and where to write them.
`SampleRequest.check` checks the count first and then how the expressions are to be grown; the
first fault found is the answer.
-/

namespace SampleForge

open Numeric

/-- The largest count of a request: beyond it file names no longer sort by number. -/
def maxCount : UInt32 := 9999

/-- The largest depth bound. -/
def depthLimit : UInt32 := 32

/-- What is wrong with a way of growing expressions. -/
inductive GrowthError where
  | depthAboveLimit (depth : UInt32)
  | leafOutsideUnit (probability : Binary64)
  | parenOutsideUnit (probability : Binary64)
  | emptyLiteralRange
deriving DecidableEq

def GrowthError.message : GrowthError → String
  | .depthAboveLimit depth =>
    "max_depth must be <= " ++ toString depthLimit.toNat ++ ", got " ++ toString depth.toNat
  | .leafOutsideUnit p => "leaf_probability must be in [0, 1], got " ++ p.write .plain
  | .parenOutsideUnit p => "paren_probability must be in [0, 1], got " ++ p.write .plain
  | .emptyLiteralRange => "literal_upper_bound must be >= 1"

namespace Growth

/-- Depth at most three, a literal with probability 0.4, parentheses with 0.5, literals below a
thousand. -/
def default : Growth where
  maxDepth := 3
  leafProbability := .ofRat (2 / 5)
  parenProbability := .ofRat (1 / 2)
  literalBound := 1000

/-- The usual way of growing, with another depth bound. -/
def ofDepth (depth : UInt32) : Growth :=
  { default with maxDepth := depth }

/-- Checks the depth bound, the two probabilities and the range of literals, in this order. -/
def check (growth : Growth) : Except GrowthError Unit :=
  if depthLimit < growth.maxDepth then .error (.depthAboveLimit growth.maxDepth)
  else if !growth.leafProbability.inUnitInterval then
    .error (.leafOutsideUnit growth.leafProbability)
  else if !growth.parenProbability.inUnitInterval then
    .error (.parenOutsideUnit growth.parenProbability)
  else if growth.literalBound = 0 then .error .emptyLiteralRange
  else .ok ()

end Growth

/-- What to grow and where to write it. -/
structure SampleRequest where
  count : UInt32
  seed : Int64
  /-- The directory of the sample files. -/
  outDir : String
  /-- The corpus file. -/
  corpusPath : String
  growth : Growth
deriving DecidableEq

/-- What is wrong with a request. -/
inductive RequestError where
  | countOutOfRange (count : UInt32)
  | growthFault (cause : GrowthError)
deriving DecidableEq

def RequestError.message : RequestError → String
  | .countOutOfRange count =>
    "count must be between 1 and " ++ toString maxCount.toNat ++ ", got " ++ toString count.toNat
  | .growthFault cause => "invalid synthesis parameters: " ++ cause.message

namespace SampleRequest

def default : SampleRequest where
  count := 500
  seed := 1337
  outDir := "tests/correct_samples"
  corpusPath := "training_data.txt"
  growth := .default

/-- Checks the count, then the growth. -/
def check (request : SampleRequest) : Except RequestError Unit :=
  if request.count = 0 ∨ maxCount < request.count then .error (.countOutOfRange request.count)
  else request.growth.check.mapError .growthFault

end SampleRequest
end SampleForge
