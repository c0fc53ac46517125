import SampleForge.CommandLine.Scanner
import SampleForge.Settings.Sections
import SampleForge.Benchmark.Run

/-!
# Commands

`Invocation.read` turns the words of a command line into a command with its flags.  The `complete`
functions fill in what the flags leave open: what a flag gives stands, then what the settings file gives,
then the built-in value, for every field on its own.
-/

namespace SampleForge.CommandLine

/-- The flags of `generate`. -/
structure GenerateFlags where
  count : Option UInt32
  seed : Option Int64
  out : Option String
  training : Option String
  maxDepth : Option UInt32
deriving DecidableEq

/-- The flags of `bench`. -/
structure BenchFlags where
  tool : Option String
  runs : Option UInt32
  dirs : Option (List String)
  format : ReportFormat
deriving DecidableEq

/-- The flags of `verify`. -/
structure VerifyFlags where
  training : Option String
deriving DecidableEq

inductive Command where
  | generate (flags : GenerateFlags)
  | bench (flags : BenchFlags)
  | verify (flags : VerifyFlags)
deriving DecidableEq

/-- A command line that can be carried out. -/
structure Invocation where
  debug : Bool
  config : Option String
  command : Command
deriving DecidableEq

/-- The command of a scope. -/
def Command.of? (scope : Scope) (given : FlagValues) : Option Command :=
  match scope with
  | .top => none
  | .generate =>
    some (.generate ⟨given.count, given.seed, given.out, given.training, given.maxDepth⟩)
  | .bench => some (.bench ⟨given.tool, given.runs, given.dirs, given.format.getD .text⟩)
  | .verify => some (.verify ⟨given.training⟩)

/-- The flags known to every scope may stand before and after the command; what stands after it is
nearer and counts. -/
def Invocation.of (top inner : FlagValues) (command : Command) : Invocation :=
  ⟨top.debug || inner.debug, inner.config <|> top.config, command⟩

/-- Help may be asked for by the names of commands, one below the other; no command has commands of
its own. -/
def askHelp : List String → UsageError
  | [] => .helpShown
  | [word] => if (Subcommand.named? word).isSome then .helpShown else .unknownSubcommand
  | _ => .unknownSubcommand

/-- Reads the words after the name of the program. -/
def Invocation.read (words : List String) : Except UsageError Invocation := do
  let (top, command) ← scan .top .start words
  match command with
  | none =>
    let top ← top.settle
    throw (if top.settled.isEmpty then .argumentsMissing else .subcommandMissing)
  | some (.help, rest) => throw (askHelp rest)
  | some (.run scope, rest) =>
    let (inner, _) ← scan scope .start rest
    let inner ← inner.settle
    let top ← top.settle
    match Command.of? scope inner.given with
    | none => throw .subcommandMissing
    | some command => pure (.of top.given inner.given command)

/-- The request of `generate`. -/
def GenerateFlags.complete (flags : GenerateFlags) (settings : GenerateSettings) :
    SampleRequest :=
  let default := SampleRequest.default
  { count := (flags.count <|> settings.count).getD default.count
    seed := (flags.seed <|> settings.seed).getD default.seed
    outDir := (flags.out <|> settings.out).getD default.outDir
    corpusPath := (flags.training <|> settings.training).getD default.corpusPath
    growth := .ofDepth
      ((flags.maxDepth <|> settings.maxDepth).getD default.growth.maxDepth) }

/-- What `bench` is to do. -/
def BenchFlags.complete (flags : BenchFlags) (settings : BenchSettings) : Benchmark :=
  let default := Benchmark.default
  { tool := (flags.tool <|> settings.tool).getD default.tool
    runs := (flags.runs <|> settings.runs).getD default.runs
    dirs := (flags.dirs <|> settings.dirs).getD default.dirs }

/-- The corpus file `verify` looks at. -/
def VerifyFlags.complete (flags : VerifyFlags) (settings : GenerateSettings) : String :=
  (flags.training <|> settings.training).getD SampleRequest.default.corpusPath

end SampleForge.CommandLine
