import SampleForge.Shell.Token

/-!
# Reading a script

The tokens of a script are read as a list of commands.  A word is a keyword only where a command may
begin and only if nothing in it is quoted.  A script is read line by line, a line being what stands
before a line end outside all compound commands, and it ends at the first line that cannot be read.
-/

namespace SampleForge.Shell

/-- The text of a first token that is a word without quotes and parameters. -/
def keyword? : List Token → Option String
  | .word word :: _ => bareText? word
  | _ => none

/-- The keywords that end a list of commands. -/
def closingKeywords : List String := ["then", "elif", "else", "fi", "esac", "\x7d"]

/-- Whether no command begins here. -/
def endsList (tokens : List Token) : Bool :=
  match tokens with
  | [] => true
  | .closing :: _ => true
  | .doubleSemicolon :: _ => true
  | _ => (keyword? tokens).any (· ∈ closingKeywords)

def skipNewlines : List Token → List Token
  | .newline :: rest => skipNewlines rest
  | tokens => tokens

/-- Goes past a keyword that has to come next. -/
def expectKeyword (word : String) (tokens : List Token) : Option (List Token) :=
  if keyword? tokens = some word then some tokens.tail else none

/-- Goes past a token that has to come next. -/
def expectToken (token : Token) (tokens : List Token) : Option (List Token) :=
  if tokens.head? = some token then some tokens.tail else none

/-- The name and the value of a word that gives a variable a value. -/
def assignment? (word : Word) : Option (String × Word) :=
  let name := word.takeWhile fun piece =>
    match piece with
    | .text [c] false => inName c
    | _ => false
  match bareText? name, word.drop name.length with
  | some text, .text ['='] false :: value =>
    if text.toList.head?.any beginsName then some (text, value) else none
  | _, _ => none

/-- A simple command that has been read in part, its parts last first. -/
structure Partial where
  assignments : List (String × Word)
  words : List Word
  redirects : List Redirect

namespace Partial

def start : Partial := ⟨[], [], []⟩

def addWord (p : Partial) (word : Word) : Partial :=
  match if p.words.isEmpty then assignment? word else none with
  | some pair => { p with assignments := pair :: p.assignments }
  | none => { p with words := word :: p.words }

def addRedirect (p : Partial) (redirect : Redirect) : Partial :=
  { p with redirects := redirect :: p.redirects }

def toCommand (p : Partial) : Command :=
  .simple p.assignments.reverse p.words.reverse p.redirects.reverse

end Partial

/-- Reads the rest of a simple command. -/
def readSimple (p : Partial) : List Token → Option (Command × List Token)
  | .word word :: rest => readSimple (p.addWord word) rest
  | .redirect stream kind :: .word target :: rest =>
    readSimple (p.addRedirect ⟨stream, kind, target⟩) rest
  | .redirect .. :: _ => none
  | tokens => some (p.toCommand, tokens)

/-- Reads redirections. -/
def readRedirects (found : List Redirect) : List Token → Option (List Redirect × List Token)
  | .redirect stream kind :: .word target :: rest =>
    readRedirects (⟨stream, kind, target⟩ :: found) rest
  | .redirect .. :: _ => none
  | tokens => some (found.reverse, tokens)

/-- Reads the redirections behind a compound command. -/
def finishCompound (body : Command) (tokens : List Token) : Option (Command × List Token) := do
  let (redirects, rest) ← readRedirects [] tokens
  pure (if redirects.isEmpty then body else .redirected body redirects, rest)

/-- Reads the patterns of a branch up to the closing bracket. -/
def readPatterns (found : List Word) : List Token → Option (List Word × List Token)
  | .word word :: .bar :: rest => readPatterns (word :: found) rest
  | .word word :: .closing :: rest => some ((word :: found).reverse, rest)
  | _ => none

mutual

/-- Reads commands as long as there are any. -/
def readList : (fuel : Nat) → List Token → Option (Command × List Token)
  | 0, _ => none
  | fuel + 1, tokens =>
    let tokens := skipNewlines tokens
    if endsList tokens then some (.nothing, tokens)
    else do
      let (first, rest) ← readJoined fuel tokens
      match rest with
      | .semicolon :: rest | .newline :: rest => do
        let (others, rest) ← readList fuel rest
        pure (.sequence first others, rest)
      | _ => pure (first, rest)

/-- Reads commands joined by `&&` and `||`. -/
def readJoined : (fuel : Nat) → List Token → Option (Command × List Token)
  | 0, _ => none
  | fuel + 1, tokens => do
    let (first, rest) ← readNegatable fuel tokens
    joinTo fuel first rest

/-- Reads what is joined to a command; both operators bind to the left. -/
def joinTo : (fuel : Nat) → Command → List Token → Option (Command × List Token)
  | 0, _, _ => none
  | fuel + 1, first, tokens =>
    match tokens with
    | .andIf :: rest => do
      let (second, rest) ← readNegatable fuel (skipNewlines rest)
      joinTo fuel (.both first second) rest
    | .orIf :: rest => do
      let (second, rest) ← readNegatable fuel (skipNewlines rest)
      joinTo fuel (.either first second) rest
    | _ => some (first, tokens)

/-- Reads a command that may be negated. -/
def readNegatable : (fuel : Nat) → List Token → Option (Command × List Token)
  | 0, _ => none
  | fuel + 1, tokens =>
    if keyword? tokens = some "!" then do
      let (command, rest) ← readNegatable fuel tokens.tail
      pure (.negate command, rest)
    else readCommand fuel tokens

def readCommand : (fuel : Nat) → List Token → Option (Command × List Token)
  | 0, _ => none
  | fuel + 1, tokens =>
    match keyword? tokens with
    | some "if" => do
      let (body, rest) ← readIf fuel tokens.tail
      finishCompound body rest
    | some "case" =>
      match tokens.tail with
      | .word subject :: rest => do
        let rest ← expectKeyword "in" (skipNewlines rest)
        let (body, rest) ← readBranches fuel subject rest
        finishCompound body rest
      | _ => none
    | some "\x7b" => do
      let (body, rest) ← readList fuel tokens.tail
      finishCompound body (← expectKeyword "\x7d" rest)
    | _ =>
      match tokens with
      | .opening :: rest => do
        let (body, rest) ← readList fuel rest
        finishCompound (.enclosed body) (← expectToken .closing rest)
      | .word _ :: _ | .redirect .. :: _ => readSimple .start tokens
      | _ => none

/-- Reads a conditional from behind its first keyword. -/
def readIf : (fuel : Nat) → List Token → Option (Command × List Token)
  | 0, _ => none
  | fuel + 1, tokens => do
    let (condition, rest) ← readList fuel tokens
    let rest ← expectKeyword "then" rest
    let (accepted, rest) ← readList fuel rest
    match keyword? rest with
    | some "fi" => pure (.choose condition accepted .nothing, rest.tail)
    | some "else" => do
      let (refused, rest) ← readList fuel rest.tail
      let rest ← expectKeyword "fi" rest
      pure (.choose condition accepted refused, rest)
    | some "elif" => do
      let (refused, rest) ← readIf fuel rest.tail
      pure (.choose condition accepted refused, rest)
    | _ => none

/-- Reads the branches of `case` up to their end. -/
def readBranches : (fuel : Nat) → Word → List Token → Option (Command × List Token)
  | 0, _, _ => none
  | fuel + 1, subject, tokens =>
    let tokens := skipNewlines tokens
    if keyword? tokens = some "esac" then some (.nothing, tokens.tail)
    else do
      let (patterns, rest) ←
        readPatterns [] (if tokens.head? = some .opening then tokens.tail else tokens)
      let (body, rest) ← readList fuel rest
      match rest with
      | .doubleSemicolon :: rest => do
        let (otherwise, rest) ← readBranches fuel subject rest
        pure (.branch subject patterns body otherwise, rest)
      | _ => do
        let rest ← expectKeyword "esac" rest
        pure (.branch subject patterns body .nothing, rest)

end

/-- Reads the commands of one line. -/
def readLine : (fuel : Nat) → List Token → Option (Command × List Token)
  | 0, _ => none
  | fuel + 1, tokens => do
    let (first, rest) ← readJoined fuel tokens
    match rest with
    | [.semicolon] | .semicolon :: .newline :: _ => pure (first, rest.tail)
    | .semicolon :: rest => do
      let (others, rest) ← readLine fuel rest
      pure (.sequence first others, rest)
    | _ => pure (first, rest)

/-- Reads lines up to the first that cannot be read. -/
def readLines : (fuel : Nat) → List Token → Command
  | 0, _ => .unreadable
  | fuel + 1, tokens =>
    match skipNewlines tokens with
    | [] => .nothing
    | token :: rest =>
      match readLine fuel (token :: rest) with
      | some (line, []) => line
      | some (line, .newline :: rest) => .sequence line (readLines fuel rest)
      | _ => .unreadable

/-- The command a script stands for. -/
def readScript (script : String) : Command :=
  readLines (8 * (tokens script).length + 8) (tokens script)

end SampleForge.Shell
