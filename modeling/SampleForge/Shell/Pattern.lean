/-!
# Patterns

A pattern is matched against a whole text.  A star stands for any text, a question mark for any
character, and square brackets for one of a set of characters; quoted characters stand for themselves.
-/

namespace SampleForge.Shell

/-- One item of a pattern. -/
inductive PatternItem where
  | anyText
  | anyChar
  | char (c : Char)
  /-- One character in one of the ranges, or in none of them. -/
  | set (negated : Bool) (ranges : List (Char × Char))
deriving DecidableEq

/-- The ends of a list, from the whole list to the empty one. -/
def endings : List Char → List (List Char)
  | [] => [[]]
  | c :: cs => (c :: cs) :: endings cs

/-- Whether a pattern matches a whole text. -/
def matchesPattern : List PatternItem → List Char → Bool
  | [], cs => cs.isEmpty
  | .anyText :: items, cs => (endings cs).any (matchesPattern items)
  | .anyChar :: items, cs =>
    match cs with
    | [] => false
    | _ :: rest => matchesPattern items rest
  | .char c :: items, cs =>
    match cs with
    | [] => false
    | d :: rest => c = d && matchesPattern items rest
  | .set negated ranges :: items, cs =>
    match cs with
    | [] => false
    | d :: rest =>
      (ranges.any (fun (low, high) => low ≤ d && d ≤ high) != negated) && matchesPattern items rest

/-- A character of a pattern, and whether it is quoted. -/
abbrev PatternChar := Char × Bool

/-- The ranges of a set from the characters between its brackets. -/
def setRanges : List PatternChar → List (Char × Char)
  | (low, _) :: ('-', false) :: (high, _) :: rest => (low, high) :: setRanges rest
  | (c, _) :: rest => (c, c) :: setRanges rest
  | [] => []

/-- The characters of a set and what follows its closing bracket; a closing bracket at the beginning
belongs to the set. -/
def splitSet? (chars : List PatternChar) : Option (List PatternChar × List PatternChar) :=
  let first := chars.take 1
  let others := chars.drop 1
  match others.dropWhile (· ≠ (']', false)) with
  | [] => none
  | _ :: rest => some (first ++ others.takeWhile (· ≠ (']', false)), rest)

/-- The set that begins behind an opening bracket, with what follows it. -/
def readSet? (chars : List PatternChar) : Option (PatternItem × List PatternChar) :=
  let negated := chars.head? = some ('!', false)
  (splitSet? (if negated then chars.tail else chars)).map fun (inside, rest) =>
    (.set negated (setRanges inside), rest)

/-- The items of a pattern; a bracket that opens no set stands for itself. -/
def readPattern : (fuel : Nat) → List PatternChar → List PatternItem
  | 0, _ => []
  | _ + 1, [] => []
  | fuel + 1, (c, quoted) :: rest =>
    if quoted then .char c :: readPattern fuel rest
    else if c = '*' then .anyText :: readPattern fuel rest
    else if c = '?' then .anyChar :: readPattern fuel rest
    else
      match if c = '[' then readSet? rest else none with
      | some (item, rest) => item :: readPattern fuel rest
      | none => .char c :: readPattern fuel rest

/-- The pattern that characters stand for. -/
def patternOf (chars : List PatternChar) : List PatternItem :=
  readPattern chars.length chars

end SampleForge.Shell
