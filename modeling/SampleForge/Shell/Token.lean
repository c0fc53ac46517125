import SampleForge.Shell.Command

/-!
# Cutting a script into tokens

Words end at blanks and operators that are not quoted; a comment begins where a word could and lasts to
the end of its line.  Where a piece of language is left out or broken off, the tokens end with one that
cannot be read.
-/

namespace SampleForge.Shell

inductive Token where
  | word (word : Word)
  | newline
  | semicolon
  | doubleSemicolon
  | andIf
  | orIf
  | bar
  | opening
  | closing
  | redirect (stream : Nat) (kind : RedirectKind)
  | unreadable
deriving DecidableEq

/-- Whether an unquoted character ends a word. -/
def endsWord (c : Char) : Bool :=
  c ∈ [' ', '\t', '\n', ';', '&', '|', '(', ')', '<', '>']

/-- Whether a character may begin the name of a variable. -/
def beginsName (c : Char) : Bool := c.isAlpha || c = '_'

/-- Whether a character may stand in the name of a variable. -/
def inName (c : Char) : Bool := c.isAlphanum || c = '_'

/-- The number written by digits. -/
def digitsValue (digits : List Char) : Nat := Nat.ofDigitChars 10 digits 0

/-- A parameter other than a variable whose name is one character. -/
def specialParameter? (c : Char) : Option Parameter :=
  match c with
  | '#' => some .argumentCount
  | '@' => some (.arguments true)
  | '*' => some (.arguments false)
  | '?' => some .status
  | '$' => some .process
  | _ => if c.isDigit then some (.argument (digitsValue [c])) else none

/-- The parameter named between braces. -/
def bracedParameter? (name : List Char) : Option Parameter :=
  match name with
  | [] => none
  | [c] => if beginsName c then some (.variable (String.ofList [c])) else specialParameter? c
  | c :: cs =>
    if name.all Char.isDigit then some (.argument (digitsValue name))
    else if beginsName c && cs.all inName then some (.variable (String.ofList name))
    else none

/-- Reads what follows a dollar sign; a dollar sign that refers to nothing stands for itself. -/
def readParameter (quoted : Bool) : List Char → Option (Piece × List Char)
  | [] => some (.text ['$'] quoted, [])
  | '(' :: _ => none
  | '\x7b' :: cs =>
    match cs.dropWhile (· ≠ '\x7d') with
    | [] => none
    | _ :: rest =>
      (bracedParameter? (cs.takeWhile (· ≠ '\x7d'))).map fun p => (.parameter p quoted, rest)
  | c :: cs =>
    match specialParameter? c with
    | some p => some (.parameter p quoted, cs)
    | none =>
      if beginsName c then
        let name := String.ofList (c :: cs.takeWhile inName)
        some (.parameter (.variable name) quoted, cs.dropWhile inName)
      else some (.text ['$'] quoted, c :: cs)

/-- Whether a backslash between double quotes quotes a character. -/
def escapable (c : Char) : Bool := c ∈ ['$', '\x60', '\x22', '\\']

/-- Reads a word; `word` holds the pieces before, last first. -/
def readWord : (fuel : Nat) → (quoted : Bool) → (word : Word) → List Char →
    Option (Word × List Char)
  | 0, _, _, _ => none
  | _ + 1, quoted, word, [] => if quoted then none else some (word.reverse, [])
  | fuel + 1, quoted, word, c :: cs =>
    if !quoted && endsWord c then some (word.reverse, c :: cs)
    else if !quoted && c = '\x27' then
      match cs.dropWhile (· ≠ '\x27') with
      | [] => none
      | _ :: rest => readWord fuel false (.text (cs.takeWhile (· ≠ '\x27')) true :: word) rest
    else if c = '\x22' then
      if !quoted && cs.head? = some '\x22' then readWord fuel false (.text [] true :: word) cs.tail
      else readWord fuel (!quoted) word cs
    else if c = '\x60' then none
    else if c = '$' then
      match readParameter quoted cs with
      | none => none
      | some (piece, rest) => readWord fuel quoted (piece :: word) rest
    else if c = '\\' then
      match cs with
      | [] => readWord fuel quoted (.text ['\\'] true :: word) []
      | '\n' :: rest => readWord fuel quoted word rest
      | d :: rest =>
        if quoted && !escapable d then readWord fuel quoted (.text ['\\', d] true :: word) rest
        else readWord fuel quoted (.text [d] true :: word) rest
    else readWord fuel quoted (.text [c] quoted :: word) cs

/-- Reads the rest of a redirection of a stream. -/
def readRedirect (stream : Nat) : List Char → Token × List Char
  | '>' :: cs => (.redirect stream .append, cs)
  | '&' :: cs => (.redirect stream .duplicate, cs)
  | cs => (.redirect stream .overwrite, cs)

/-- Reads an operator, a line end or a word. -/
def readToken (cs : List Char) : Option (Token × List Char) :=
  match cs with
  | '\n' :: rest => some (.newline, rest)
  | ';' :: ';' :: rest => some (.doubleSemicolon, rest)
  | ';' :: rest => some (.semicolon, rest)
  | '&' :: '&' :: rest => some (.andIf, rest)
  | '&' :: _ => none
  | '|' :: '|' :: rest => some (.orIf, rest)
  | '|' :: rest => some (.bar, rest)
  | '(' :: rest => some (.opening, rest)
  | ')' :: rest => some (.closing, rest)
  | '<' :: _ => none
  | '>' :: rest => some (readRedirect 1 rest)
  | _ =>
    let stream := cs.takeWhile Char.isDigit
    match cs.dropWhile Char.isDigit with
    | '>' :: rest => some (readRedirect (digitsValue stream) rest)
    | _ => (readWord (cs.length + 1) false [] cs).map fun (word, rest) => (.word word, rest)

/-- Cuts a script into tokens. -/
def readTokens : (fuel : Nat) → List Char → List Token
  | _, [] => []
  | 0, _ => [.unreadable]
  | fuel + 1, c :: cs =>
    if c = ' ' ∨ c = '\t' then readTokens fuel cs
    else if c = '\\' ∧ cs.head? = some '\n' then readTokens fuel cs.tail
    else if c = '#' then readTokens fuel (cs.dropWhile (· ≠ '\n'))
    else
      match readToken (c :: cs) with
      | none => [.unreadable]
      | some (token, rest) => token :: readTokens fuel rest

/-- The tokens of a script. -/
def tokens (script : String) : List Token :=
  readTokens script.toList.length script.toList

end SampleForge.Shell
