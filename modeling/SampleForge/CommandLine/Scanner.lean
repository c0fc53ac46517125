import SampleForge.CommandLine.Flags

/-!
# Going through the words of a command line

The words of a command line are looked at one after another.  A flag that takes values stays open and
collects the words after it; it is settled, and its values are checked, when the next flag comes or the
words end.  A word that cannot be placed ends everything at once, before an open flag is settled.  After
a word of two dashes no word is a flag, a value or a command.

`scan`, with the readers of values under `FlagValues.take` and `Invocation.read` on top of it, stands for
the package `clap`.  That it reads every command line as the package does was tested and is not proved;
what is proved of command lines is about these definitions.
-/

namespace SampleForge.CommandLine

/-- What a word looks like by itself. -/
inductive Word where
  /-- Two dashes. -/
  | escape
  /-- A long flag, with a value behind an equals sign or without. -/
  | long (name : String) (value : Option String)
  /-- A dash and letters. -/
  | short (letters : List Char)
  | plain
deriving DecidableEq

/-- Cuts a long flag at its first equals sign. -/
def Word.ofLong (cs : List Char) : Word :=
  let name := String.ofList (cs.takeWhile (· ≠ '='))
  match cs.dropWhile (· ≠ '=') with
  | [] => .long name none
  | _ :: value => .long name (some (String.ofList value))

def Word.of (word : String) : Word :=
  match word.toList with
  | ['-', '-'] => .escape
  | '-' :: '-' :: cs => .ofLong cs
  | ['-'] => .plain
  | '-' :: cs => .short cs
  | _ => .plain

/-- Whether letters after a dash make a number: digits, at most one point and then at most one `e` of
either case, neither of them first, and something after the `e`. -/
def looksLikeNumber : (atStart seenPoint seenExponent : Bool) → List Char → Bool
  | _, _, _, [] => true
  | atStart, seenPoint, seenExponent, c :: rest =>
    if c.isDigit then looksLikeNumber false seenPoint seenExponent rest
    else if c = '.' then
      !seenPoint && !seenExponent && !atStart && looksLikeNumber false true seenExponent rest
    else if c = 'e' ∨ c = 'E' then
      !seenExponent && !atStart && !rest.isEmpty && looksLikeNumber false seenPoint true rest
    else false

/-- How far the words of one scope have been taken in. -/
structure Scanner where
  /-- The values of the settled flags. -/
  given : FlagValues
  /-- The settled flags. -/
  settled : List Flag
  /-- The open flag and its values so far, the latest first. -/
  pending : Option (Flag × List String)
  /-- Whether the open flag takes further values. -/
  awaiting : Bool
deriving DecidableEq

namespace Scanner

def start : Scanner := ⟨.none, [], none, false⟩

/-- Checks the values of a flag and takes them over.  A flag that takes one value must have it, and
only the flag that takes any number may come again. -/
def accept (s : Scanner) (flag : Flag) (values : List String) : Except UsageError Scanner :=
  if flag.arity = .one ∧ values.isEmpty then .error .invalidValue
  else if flag.arity ≠ .any ∧ flag ∈ s.settled then .error .repeatedArgument
  else do
    let given ← s.given.take flag values
    pure { s with given := given, settled := flag :: s.settled }

/-- Settles the open flag. -/
def settle (s : Scanner) : Except UsageError Scanner :=
  match s.pending with
  | none => .ok s
  | some (flag, values) => accept { s with pending := none, awaiting := false } flag values.reverse

/-- Takes a word as a value of the open flag. -/
def push (s : Scanner) (value : String) : Scanner :=
  match s.pending with
  | none => s
  | some (flag, values) =>
    { s with pending := some (flag, value :: values), awaiting := flag.arity = .any }

/-- Opens a flag, or settles it at once if it takes no value or has it behind an equals sign. -/
def flag (s : Scanner) (flag : Flag) (attached : Option String) : Except UsageError Scanner :=
  match flag.arity, attached with
  | .none, some _ => .error .tooManyValues
  | .none, none => do (← s.settle).accept flag []
  | _, some value => do (← s.settle).accept flag [value]
  | _, none => do pure { ← s.settle with pending := some (flag, []), awaiting := true }

/-- Whether a word of a dash and letters is a value of the open flag. -/
def takesNumber (s : Scanner) (letters : List Char) : Bool :=
  s.awaiting && s.pending.any (fun p => p.1.allowsNegativeNumbers) &&
    looksLikeNumber true false false letters

/-- The flag of a letter. -/
def letterFlag? (scope : Scope) (c : Char) : Option Flag :=
  if c = 'h' then some .help
  else if c = 'V' ∧ Flag.version ∈ scope.flags then some .version
  else none

/-- What a word that is no value of a flag and no flag means. -/
def misplaced : Scope → UsageError
  | .top => .unknownSubcommand
  | _ => .unknownArgument

/-- Takes in a word other than two dashes. -/
def word (scope : Scope) (s : Scanner) (text : String) : Except UsageError Scanner :=
  match Word.of text with
  | .long name attached =>
    match scope.flags.find? fun f => f.name = name with
    | some f => s.flag f attached
    | none => .error .unknownArgument
  | .short letters =>
    if s.takesNumber letters then .ok (s.push text)
    else
      match letters.head?.bind (letterFlag? scope) with
      | some f => s.flag f none
      | none => .error .unknownArgument
  | _ => if s.awaiting then .ok (s.push text) else .error (misplaced scope)

end Scanner

/-- The commands, and the one that explains the others. -/
inductive Subcommand where
  | run (scope : Scope)
  | help
deriving DecidableEq

def Subcommand.named? (word : String) : Option Subcommand :=
  if word = "generate" then some (.run .generate)
  else if word = "bench" then some (.run .bench)
  else if word = "verify" then some (.run .verify)
  else if word = "help" then some .help
  else none

/-- The command a word stands for in a scope. -/
def Scope.subcommand? : Scope → String → Option Subcommand
  | .top, word => Subcommand.named? word
  | _, _ => none

/-- What the words after two dashes come to: any word among them is one too many. -/
def checkTrailing (scope : Scope) : List String → Except UsageError Unit
  | [] => .ok ()
  | word :: _ =>
    if (scope.subcommand? word).isSome then .error .unknownArgument
    else .error (Scanner.misplaced scope)

/-- Takes in words up to the name of a command, which is handed on with the words after it. -/
def scan (scope : Scope) : Scanner → List String →
    Except UsageError (Scanner × Option (Subcommand × List String))
  | s, [] => .ok (s, none)
  | s, text :: rest =>
    match (if s.awaiting then none else scope.subcommand? text) with
    | some command => .ok (s, some (command, rest))
    | none =>
      if Word.of text = .escape then do
        checkTrailing scope rest
        pure (s, none)
      else do
        let s ← s.word scope text
        scan scope s rest

end SampleForge.CommandLine
