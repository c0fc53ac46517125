/-!
# Commands of shell scripts

The part of the shell's language that checkers are written in: simple commands with redirected output,
lists joined by `;`, `&&` and `||`, negation, groups, `if` and `case`.  There are no loops, no pipes,
no functions and no substitution of commands, so every script ends.
-/

namespace SampleForge.Shell

/-- What a dollar sign may refer to. -/
inductive Parameter where
  | variable (name : String)
  /-- An argument by its number; the number zero is the script itself. -/
  | argument (n : Nat)
  | argumentCount
  /-- All arguments, between quotes one word each or joined to one. -/
  | arguments (separate : Bool)
  /-- The status of the last command. -/
  | status
  /-- The process number of the shell. -/
  | process
deriving DecidableEq

/-- A piece of a word. -/
inductive Piece where
  | text (chars : List Char) (quoted : Bool)
  | parameter (parameter : Parameter) (quoted : Bool)
deriving DecidableEq

/-- A word before its parameters are filled in. -/
abbrev Word := List Piece

namespace Piece

/-- The characters of an unquoted text. -/
def bare? : Piece → Option (List Char)
  | text chars false => some chars
  | _ => none

end Piece

/-- The text of a word without quotes and parameters. -/
def bareText? (word : Word) : Option String :=
  (word.mapM Piece.bare?).map fun parts => String.ofList parts.flatten

/-- Where a redirection leads. -/
inductive RedirectKind where
  | overwrite
  | append
  /-- The same place as another stream. -/
  | duplicate
deriving DecidableEq

/-- A redirection of a stream, given by its number. -/
structure Redirect where
  stream : Nat
  kind : RedirectKind
  target : Word
deriving DecidableEq

inductive Command where
  | nothing
  | simple (assignments : List (String × Word)) (words : List Word) (redirects : List Redirect)
  | sequence (first second : Command)
  /-- The second runs if the first succeeds. -/
  | both (first second : Command)
  /-- The second runs if the first fails. -/
  | either (first second : Command)
  | negate (command : Command)
  | choose (condition accepted refused : Command)
  /-- A branch of `case`; `otherwise` holds the branches after it. -/
  | branch (subject : Word) (patterns : List Word) (body otherwise : Command)
  | redirected (body : Command) (redirects : List Redirect)
  /-- A group that ends without ending the script. -/
  | enclosed (body : Command)
  /-- What cannot be read; the script ends here. -/
  | unreadable

end SampleForge.Shell
