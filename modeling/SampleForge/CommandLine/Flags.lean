import SampleForge.Generation.Request
import SampleForge.Text.Numeral

/-!
# Flags of the command line

The flags of the program, where each may stand, how many values each takes, and what a value must look
like.  `FlagValues.take` takes the values of one flag over into a record of all of them.
-/

namespace SampleForge.CommandLine

/-- Where on a command line a flag stands: before the name of a command, or after the name of one. -/
inductive Scope where
  | top
  | generate
  | bench
  | verify
deriving DecidableEq

/-- The flags. -/
inductive Flag where
  | debug
  | config
  | count
  | seed
  | out
  | training
  | maxDepth
  | tool
  | runs
  | dirs
  | format
  | help
  | version
deriving DecidableEq

/-- How many values a flag takes. -/
inductive Arity where
  | none
  | one
  | any
deriving DecidableEq

namespace Flag

/-- The name after the two dashes. -/
def name : Flag → String
  | debug => "debug"
  | config => "config"
  | count => "count"
  | seed => "seed"
  | out => "out"
  | training => "training"
  | maxDepth => "max-depth"
  | tool => "curlee"
  | runs => "runs"
  | dirs => "dirs"
  | format => "format"
  | help => "help"
  | version => "version"

def arity : Flag → Arity
  | debug | help | version => .none
  | dirs => .any
  | config | count | seed | out | training | maxDepth | tool | runs | format => .one

/-- Whether a word that looks like a negative number may be a value. -/
def allowsNegativeNumbers : Flag → Bool
  | seed => true
  | _ => false

end Flag

/-- The flags that every scope knows. -/
def globalFlags : List Flag := [.debug, .config, .help]

/-- The flags of a scope. -/
def Scope.flags : Scope → List Flag
  | .top => .version :: globalFlags
  | .generate => [.count, .seed, .out, .training, .maxDepth] ++ globalFlags
  | .bench => [.tool, .runs, .dirs, .format] ++ globalFlags
  | .verify => .training :: globalFlags

/-- Why a command line is not carried out.  Showing the help or the version is one of the reasons. -/
inductive UsageError where
  | helpShown
  | versionShown
  | argumentsMissing
  | subcommandMissing
  | unknownSubcommand
  | unknownArgument
  /-- A value that is missing, empty, or not one of a fixed set. -/
  | invalidValue
  /-- A number that is none or out of range. -/
  | valueOutOfRange
  | tooManyValues
  | repeatedArgument
deriving DecidableEq

/-- The exit code: showing what was asked for is a success. -/
def UsageError.exitCode : UsageError → Nat
  | .helpShown | .versionShown => 0
  | _ => 2

/-- How a benchmark result is shown. -/
inductive ReportFormat where
  | text
  | json
deriving DecidableEq

/-- The values of the flags given so far. -/
structure FlagValues where
  debug : Bool
  config : Option String
  count : Option UInt32
  seed : Option Int64
  out : Option String
  training : Option String
  maxDepth : Option UInt32
  tool : Option String
  runs : Option UInt32
  dirs : Option (List String)
  format : Option ReportFormat
deriving DecidableEq

namespace FlagValues

/-- No flag is given. -/
def none : FlagValues :=
  ⟨false, .none, .none, .none, .none, .none, .none, .none, .none, .none, .none⟩

end FlagValues

/-- A path is any text but the empty one. -/
def readPath (value : String) : Except UsageError String :=
  if value.isEmpty then .error .invalidValue else .ok value

/-- An unsigned number of 32 bits within limits.  It is read as a signed numeral, so a zero may carry a
minus sign. -/
def readRange (least most : UInt32) (value : String) : Except UsageError UInt32 :=
  match Text.readSigned? value.toList with
  | some i =>
    if (least.toNat : Int) ≤ i ∧ i ≤ most.toNat then .ok (UInt32.ofNat i.toNat)
    else .error .valueOutOfRange
  | none => .error .valueOutOfRange

/-- The largest count a flag may ask for. -/
def flagCountLimit : UInt32 := 9999

/-- A signed number of 64 bits. -/
def readSeed (value : String) : Except UsageError Int64 :=
  match Text.readInt64? value.toList with
  | some i => .ok i
  | none => .error .valueOutOfRange

def readFormat (value : String) : Except UsageError ReportFormat :=
  if value = "text" then .ok .text
  else if value = "json" then .ok .json
  else .error .invalidValue

/-- The only value of a flag that takes one. -/
def single (values : List String) : Except UsageError String :=
  match values with
  | [value] => .ok value
  | _ => .error .invalidValue

namespace FlagValues

/-- Takes over the values of a flag.  Directories add up when their flag is repeated. -/
def take (given : FlagValues) (flag : Flag) (values : List String) :
    Except UsageError FlagValues := do
  match flag with
  | .debug => pure { given with debug := true }
  | .config => pure { given with config := some (← readPath (← single values)) }
  | .count => pure { given with count := some (← readRange 1 flagCountLimit (← single values)) }
  | .seed => pure { given with seed := some (← readSeed (← single values)) }
  | .out => pure { given with out := some (← readPath (← single values)) }
  | .training => pure { given with training := some (← readPath (← single values)) }
  | .maxDepth => pure { given with maxDepth := some (← readRange 0 depthLimit (← single values)) }
  | .tool => pure { given with tool := some (← readPath (← single values)) }
  | .runs => pure { given with runs := some (← readRange 1 4294967295 (← single values)) }
  | .dirs => do
    let more ← values.mapM readPath
    pure { given with dirs := some (given.dirs.getD [] ++ more) }
  | .format => pure { given with format := some (← readFormat (← single values)) }
  | .help => throw .helpShown
  | .version => throw .versionShown

end FlagValues
end SampleForge.CommandLine
