import SampleForge.Shell.Command
import SampleForge.Shell.Pattern

/-!
# Filling in parameters

A word becomes any number of fields.  The value of a parameter between double quotes stays in one
piece; without quotes it is split at blanks, and blanks alone give no field.  All arguments between
quotes give one field each.
-/

namespace SampleForge.Shell

/-- What a running script knows. -/
structure Session where
  /-- The script itself. -/
  name : String
  arguments : List String
  bindings : List (String × String)
  /-- The status of the last command. -/
  status : Nat
  /-- Whether the script ends at a failure that nothing looks at. -/
  endsOnFailure : Bool
deriving DecidableEq

/-- The process number of every shell. -/
def processNumber : Nat := 1

namespace Session

/-- The value of a parameter as one text. -/
def value (s : Session) : Parameter → String
  | .variable name => (s.bindings.lookup name).getD ""
  | .argument 0 => s.name
  | .argument (n + 1) => s.arguments[n]?.getD ""
  | .argumentCount => toString s.arguments.length
  | .arguments _ => String.intercalate " " s.arguments
  | .status => toString s.status
  | .process => toString processNumber

def setVariable (s : Session) (name value : String) : Session :=
  { s with bindings := (name, value) :: s.bindings }

end Session

/-- Fields that are being put together. -/
structure Fields where
  /-- The finished fields, last first. -/
  finished : List String
  /-- The characters of the field that is open, last first. -/
  current : Option (List Char)

namespace Fields

def start : Fields := ⟨[], none⟩

/-- Finishes the open field. -/
def close (f : Fields) : Fields :=
  match f.current with
  | none => f
  | some cs => ⟨String.ofList cs.reverse :: f.finished, none⟩

/-- Adds characters to the open field, or opens one. -/
def add (f : Fields) (chars : List Char) : Fields :=
  { f with current := some (chars.reverse ++ f.current.getD []) }

/-- Adds one character of a value that is split at blanks. -/
def addSplit (f : Fields) (c : Char) : Fields :=
  if c = ' ' ∨ c = '\t' ∨ c = '\n' then f.close else f.add [c]

/-- Adds values that are fields of their own, the first to the open field. -/
def addSeparate (f : Fields) : List String → Fields
  | [] => f
  | [value] => f.add value.toList
  | value :: rest => addSeparate (f.add value.toList).close rest

/-- Adds a piece of a word. -/
def addPiece (s : Session) (f : Fields) : Piece → Fields
  | .text chars _ => f.add chars
  | .parameter (.arguments true) true => f.addSeparate s.arguments
  | .parameter p true => f.add (s.value p).toList
  | .parameter p false => (s.value p).toList.foldl addSplit f

def toList (f : Fields) : List String := f.close.finished.reverse

end Fields

namespace Session

/-- The fields of a word. -/
def fields (s : Session) (word : Word) : List String :=
  (word.foldl (Fields.addPiece s) .start).toList

/-- The characters of a word that is not split, and which of them are quoted. -/
def characters (s : Session) (word : Word) : List PatternChar :=
  word.flatMap fun
    | .text chars quoted => chars.map fun c => (c, quoted)
    | .parameter p quoted => (s.value p).toList.map fun c => (c, quoted)

/-- The text of a word that is not split. -/
def text (s : Session) (word : Word) : String :=
  String.ofList ((s.characters word).map Prod.fst)

/-- Whether one of several patterns matches the text of a subject. -/
def matchesAny (s : Session) (subject : Word) (patterns : List Word) : Bool :=
  patterns.any fun pattern =>
    matchesPattern (patternOf (s.characters pattern)) (s.text subject).toList

end Session
end SampleForge.Shell
