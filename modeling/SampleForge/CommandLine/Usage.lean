import SampleForge.CommandLine.Flags

/-!
# How the program is used

The texts shown when help or the version is asked for, or when a command line cannot be carried out.
-/

namespace SampleForge.CommandLine

def programName : String := "curlee-harness"

def programVersion : String := "0.1.0"

/-- The line that shows the form of a command line. -/
def usageLine : String := "Usage: " ++ programName ++ " [OPTIONS] <COMMAND>\n"

def helpText : String :=
  usageLine ++
    "\nCommands:\n" ++
    "  generate  Write sample programs and a corpus of them\n" ++
    "  bench     Time a checker on sample programs\n" ++
    "  verify    Check a corpus file\n" ++
    "\nOptions:\n" ++
    "      --debug            Accepted, without effect\n" ++
    "      --config <CONFIG>  File with settings\n" ++
    "  -h, --help             Show this text\n" ++
    "  -V, --version          Show the version\n"

def versionText : String := programName ++ " " ++ programVersion ++ "\n"

namespace UsageError

def message : UsageError → String
  | helpShown => helpText
  | versionShown => versionText
  | argumentsMissing => helpText
  | subcommandMissing => "error: a command is missing\n\n" ++ usageLine
  | unknownSubcommand => "error: there is no such command\n\n" ++ usageLine
  | unknownArgument => "error: unexpected argument\n\n" ++ usageLine
  | invalidValue => "error: a value is missing or is none of the possible ones\n\n" ++ usageLine
  | valueOutOfRange => "error: a value is no number or out of range\n\n" ++ usageLine
  | tooManyValues => "error: unexpected value\n\n" ++ usageLine
  | repeatedArgument => "error: an argument is given more than once\n\n" ++ usageLine

end UsageError
end SampleForge.CommandLine
