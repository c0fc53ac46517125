import SampleForge.Files.OsError
import SampleForge.Shell.Expansion
import SampleForge.Shell.Reader
import SampleForge.Text.Numeral

/-!
# Running a script

A script runs command by command until it ends itself or its commands run out; it then ends with the
status of its last command.  With the option to end on failure it also ends where a command fails whose
status nothing looks at: no condition, no `&&` or `||` behind it and no negation.  What it can do to the
world around it is to write files, to print and to ask what is there; these are parameters.  A command
that is not known fails with status 127, and where a script cannot be read it ends with code 2.
-/

namespace SampleForge.Shell

open Files

/-- Where a script prints. -/
inductive Channel where
  | out
  | err
deriving DecidableEq

/-- What a script asks about a path. -/
inductive FileTest where
  | present
  | regularFile
  | directory
deriving DecidableEq

/-- What scripts need of the system around them. -/
structure ScriptHost (m : Type → Type) where
  /-- Writes text at the end of a file, which is emptied before if `fresh` says so. -/
  put : (path : String) → (fresh : Bool) → (text : String) → m (Except OsError Unit)
  print : Channel → String → m Unit
  holds : FileTest → String → m Bool

/-- Where the output of a command goes. -/
inductive Sink where
  | channel (channel : Channel)
  | file (path : String)
  | nowhere
deriving DecidableEq

/-- Where the two output streams go. -/
structure Sinks where
  out : Sink
  err : Sink
deriving DecidableEq

def Sinks.inherited : Sinks := ⟨.channel .out, .channel .err⟩

/-- The file that keeps nothing. -/
def discardPath : String := "/dev/null"

/-- Whether a script goes on. -/
inductive Flow where
  | next
  | ended (status : ExitStatus)
deriving DecidableEq

variable {m : Type → Type} [Monad m]

/-- Writes to where output goes; a failure is not noticed. -/
def emit (host : ScriptHost m) (sink : Sink) (text : String) : m Unit := do
  match sink with
  | .channel channel => host.print channel text
  | .file path => do
    let _ ← host.put path false text
    pure ()
  | .nowhere => pure ()

namespace Sinks

/-- Lets a stream go to a sink; only the two output streams can be redirected. -/
def set? (sinks : Sinks) (stream : Nat) (sink : Sink) : Option Sinks :=
  if stream = 1 then some { sinks with out := sink }
  else if stream = 2 then some { sinks with err := sink }
  else none

/-- Where a stream named in a redirection goes. -/
def named? (sinks : Sinks) (stream : String) : Option Sink :=
  if stream = "1" then some sinks.out
  else if stream = "2" then some sinks.err
  else if stream = "-" then some .nowhere
  else none

end Sinks

/-- Opens a file for output; `none` if that fails. -/
def openSink (host : ScriptHost m) (path : String) (fresh : Bool) : m (Option Sink) := do
  if path = discardPath then pure (some .nowhere)
  else
    match ← host.put path fresh "" with
    | .error _ => pure none
    | .ok () => pure (some (.file path))

/-- Carries out redirections in order; `none` if one fails. -/
def redirect (host : ScriptHost m) (s : Session) : Sinks → List Redirect → m (Option Sinks)
  | sinks, [] => pure (some sinks)
  | sinks, r :: rest => do
    let target := s.text r.target
    let sink ← match r.kind with
      | .duplicate => pure (sinks.named? target)
      | .overwrite => openSink host target true
      | .append => openSink host target false
    match sink.bind (sinks.set? r.stream) with
    | none => pure none
    | some sinks => redirect host s sinks rest

/-- The text of `echo` after escapes, and whether it ends early. -/
def unescape : List Char → List Char × Bool
  | '\\' :: c :: rest =>
    let (done, ended) := unescape rest
    match c with
    | 'a' => ('\x07' :: done, ended)
    | 'b' => ('\x08' :: done, ended)
    | 'c' => ([], true)
    | 'f' => ('\x0c' :: done, ended)
    | 'n' => ('\n' :: done, ended)
    | 'r' => ('\r' :: done, ended)
    | 't' => ('\t' :: done, ended)
    | 'v' => ('\x0b' :: done, ended)
    | '\\' => ('\\' :: done, ended)
    | _ => ('\\' :: c :: done, ended)
  | c :: rest =>
    let (done, ended) := unescape rest
    (c :: done, ended)
  | [] => ([], false)

/-- What `echo` prints. -/
def echoText (arguments : List String) : String :=
  let plain := arguments.head? = some "-n"
  let words := if plain then arguments.tail else arguments
  let (text, ended) := unescape (String.intercalate " " words).toList
  String.ofList (if plain || ended then text else text ++ ['\n'])

/-- Compares two numbers as an operator of `test` says. -/
def compareNumbers? (operator : String) (a b : Int) : Option Bool :=
  match operator with
  | "-eq" => some (a = b)
  | "-ne" => some (a ≠ b)
  | "-lt" => some (a < b)
  | "-le" => some (a ≤ b)
  | "-gt" => some (b < a)
  | "-ge" => some (b ≤ a)
  | _ => none

/-- Compares two texts as an operator of `test` says. -/
def compareTexts? (operator a b : String) : Option Bool :=
  if operator = "=" then some (a = b)
  else if operator = "!=" then some (a ≠ b)
  else do compareNumbers? operator (← Text.readSigned? a.toList) (← Text.readSigned? b.toList)

/-- Asks about one operand as an operator of `test` says. -/
def testOne? (host : ScriptHost m) (operator operand : String) : m (Option Bool) :=
  match operator with
  | "!" => pure (some operand.isEmpty)
  | "-n" => pure (some !operand.isEmpty)
  | "-z" => pure (some operand.isEmpty)
  | "-e" => some <$> host.holds .present operand
  | "-f" => some <$> host.holds .regularFile operand
  | "-d" => some <$> host.holds .directory operand
  | _ => pure none

/-- What `test` makes of its operands; `none` if they make no test. -/
def test? (host : ScriptHost m) : List String → m (Option Bool)
  | [] => pure (some false)
  | [a] => pure (some !a.isEmpty)
  | [operator, a] => testOne? host operator a
  | [a, operator, b] =>
    if a = "!" then do pure ((← testOne? host operator b).map not)
    else pure (compareTexts? operator a b)
  | ["!", a, operator, b] => pure ((compareTexts? operator a b).map not)
  | _ => pure none

/-- The status that tells of a test. -/
def testStatus : Option Bool → Nat
  | some true => 0
  | some false => 1
  | none => 2

/-- The numbers of signals. -/
def signalNumbers : List (String × Nat) :=
  [("HUP", 1), ("INT", 2), ("QUIT", 3), ("ILL", 4), ("ABRT", 6), ("FPE", 8), ("KILL", 9),
    ("USR1", 10), ("SEGV", 11), ("USR2", 12), ("PIPE", 13), ("ALRM", 14), ("TERM", 15)]

/-- The signal of a name or a number. -/
def signal? (name : String) : Option Nat :=
  match signalNumbers.lookup name with
  | some n => some n
  | none => Text.readNat? name.toList

/-- The signal and the processes of `kill`; without a signal a process is asked to end. -/
def readKill? : List String → Option (Nat × List String)
  | "-s" :: name :: processes => (signal? name).map fun n => (n, processes)
  | option :: processes =>
    match option.toList with
    | '-' :: name => (signal? (String.ofList name)).map fun n => (n, processes)
    | _ => some (15, option :: processes)
  | [] => none

/-- What `kill` does to the script itself; other processes are out of reach. -/
def kill (s : Session) (arguments : List String) : Session × Flow :=
  match readKill? arguments with
  | some (signal, [process]) =>
    if process ≠ toString processNumber then ({ s with status := 1 }, .next)
    else if signal = 0 then ({ s with status := 0 }, .next)
    else (s, .ended (.signal signal))
  | _ => ({ s with status := 2 }, .next)

/-- What `exit` does; a code has eight bits. -/
def exit (s : Session) : List String → Session × Flow
  | [] => (s, .ended (.code s.status))
  | code :: _ =>
    match Text.readNat? code.toList with
    | some n => (s, .ended (.code (n % 256)))
    | none => (s, .ended (.code 2))

/-- What `shift` does. -/
def shift (s : Session) (arguments : List String) : Session :=
  match Text.readNat? (arguments.head?.getD "1").toList with
  | some n =>
    if n ≤ s.arguments.length then { s with arguments := s.arguments.drop n, status := 0 }
    else { s with status := 2 }
  | none => { s with status := 2 }

/-- Sets the options of an argument such as `-e`, or with a plus sign takes them back.  Only the option
to end on failure has an effect here. -/
def setOptions (s : Session) (argument : String) : Session :=
  match argument.toList with
  | '-' :: letters => if 'e' ∈ letters then { s with endsOnFailure := true } else s
  | '+' :: letters => if 'e' ∈ letters then { s with endsOnFailure := false } else s
  | _ => s

/-- What `set` does: options come first, and what follows them or two dashes are new arguments. -/
def setBuiltin (s : Session) : List String → Session
  | [] => s
  | "--" :: arguments => { s with arguments := arguments }
  | argument :: rest =>
    if argument.toList.head?.any (· ∈ ['-', '+']) then setBuiltin (setOptions s argument) rest
    else { s with arguments := argument :: rest }

/-- Ends a command with a status. -/
def finish (s : Session) (status : Nat) : Session × Flow := ({ s with status := status }, .next)

/-- Runs a command by its name. -/
def runNamed (host : ScriptHost m) (sinks : Sinks) (s : Session) (name : String)
    (arguments : List String) : m (Session × Flow) := do
  match name with
  | ":" | "true" | "sleep" => pure (finish s 0)
  | "false" => pure (finish s 1)
  | "echo" => do
    emit host sinks.out (echoText arguments)
    pure (finish s 0)
  | "test" => do pure (finish s (testStatus (← test? host arguments)))
  | "[" =>
    if arguments.getLast? = some "]" then do
      pure (finish s (testStatus (← test? host arguments.dropLast)))
    else pure (finish s 2)
  | "kill" => pure (kill s arguments)
  | "exit" => pure (exit s arguments)
  | "shift" => pure (shift s arguments, .next)
  | "set" => pure (finish (setBuiltin s arguments) 0)
  | _ => do
    emit host sinks.err (s.name ++ ": " ++ name ++ ": not found\n")
    pure (finish s 127)

/-- Runs a simple command. -/
def runSimple (host : ScriptHost m) (sinks : Sinks) (s : Session)
    (assignments : List (String × Word)) (words : List Word) (redirects : List Redirect) :
    m (Session × Flow) := do
  match ← redirect host s sinks redirects with
  | none => pure (finish s 2)
  | some sinks =>
    match words.flatMap s.fields with
    | name :: arguments => runNamed host sinks s name arguments
    | [] =>
      let s := assignments.foldl (fun s (name, value) => s.setVariable name (s.text value)) s
      pure (finish s 0)

/-- Whether there is no command to run. -/
def Command.isNothing : Command → Bool
  | .nothing => true
  | _ => false

/-- Ends a script after a failure that nothing looks at, if it has the option for that. -/
def endOnFailure (tested : Bool) : Session × Flow → Session × Flow
  | (s, .next) =>
    if s.endsOnFailure && !tested && s.status ≠ 0 then (s, .ended (.code s.status)) else (s, .next)
  | result => result

/-- Runs a command; `tested` tells whether its status is looked at. -/
def run (host : ScriptHost m) (tested : Bool) : Sinks → Command → Session → m (Session × Flow)
  | _, .nothing, s => pure (s, .next)
  | sinks, .simple assignments words redirects, s => do
    pure (endOnFailure tested (← runSimple host sinks s assignments words redirects))
  | sinks, .sequence first second, s => do
    match ← run host tested sinks first s with
    | (s, .next) => run host tested sinks second s
    | result => pure result
  | sinks, .both first second, s => do
    match ← run host true sinks first s with
    | (s, .next) => if s.status = 0 then run host tested sinks second s else pure (s, .next)
    | result => pure result
  | sinks, .either first second, s => do
    match ← run host true sinks first s with
    | (s, .next) => if s.status = 0 then pure (s, .next) else run host tested sinks second s
    | result => pure result
  | sinks, .negate command, s => do
    match ← run host true sinks command s with
    | (s, .next) => pure (finish s (if s.status = 0 then 1 else 0))
    | result => pure result
  | sinks, .choose condition accepted refused, s => do
    match ← run host true sinks condition s with
    | (s, .next) =>
      if s.status = 0 then run host tested sinks accepted s
      else if refused.isNothing then pure (finish s 0)
      else run host tested sinks refused s
    | result => pure result
  | sinks, .branch subject patterns body otherwise, s =>
    if s.matchesAny subject patterns then
      if body.isNothing then pure (finish s 0) else run host tested sinks body s
    else if otherwise.isNothing then pure (finish s 0)
    else run host tested sinks otherwise s
  | sinks, .redirected body redirects, s => do
    match ← redirect host s sinks redirects with
    | none => pure (endOnFailure tested (finish s 2))
    | some sinks => run host tested sinks body s
  | sinks, .enclosed body, s => do
    match ← run host tested sinks body s with
    | (inner, .next) => pure (endOnFailure tested (finish s inner.status))
    | (_, .ended (.code code)) => pure (endOnFailure tested (finish s code))
    | (_, .ended (.signal signal)) => pure (s, .ended (.signal signal))
  | _, .unreadable, s => pure (s, .ended (.code 2))

/-- Runs a script under a name with an option and arguments. -/
def runScript (host : ScriptHost m) (option name : String) (arguments : List String)
    (script : String) : m ExitStatus := do
  let session := setOptions ⟨name, arguments, [], 0, false⟩ option
  match ← run host false .inherited (readScript script) session with
  | (_, .ended status) => pure status
  | (s, .next) => pure (.code s.status)

end SampleForge.Shell
