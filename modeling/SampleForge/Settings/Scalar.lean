import SampleForge.Settings.Value
import SampleForge.Numeric.DecimalReading

/-!
# Scalars of a settings file

Readers for strings, numbers, dates and times.  A reader takes what it recognises off the front of a
text and gives what is left; `none` means that the text does not begin that way.  What may follow a
scalar is not decided here.
-/

namespace SampleForge.Settings

open Numeric

/-- What follows `start` in a text that begins with it. -/
def skip? (start : String) (cs : List Char) : Option (List Char) :=
  if start.toList.isPrefixOf cs then some (cs.drop start.toList.length) else none

/-- Spaces and tabs. -/
def isSpace (c : Char) : Bool := c = ' ' ∨ c = '\t'

def skipSpace (cs : List Char) : List Char := cs.dropWhile isSpace

/-- A line feed, or a carriage return and a line feed. -/
def skipNewline? : List Char → Option (List Char)
  | '\n' :: rest => some rest
  | '\r' :: '\n' :: rest => some rest
  | _ => none

/-- The characters of a comment: everything but controls, the tab excepted. -/
def isCommentChar (c : Char) : Bool :=
  c = '\t' ∨ (0x20 ≤ c.toNat ∧ c.toNat ≠ 0x7F)

def isBasicChar (c : Char) : Bool := isCommentChar c && c ≠ '"' && c ≠ '\\'

def isLiteralChar (c : Char) : Bool := isCommentChar c && c ≠ '\''

/-! ## Strings -/

def isHexDigit (c : Char) : Bool :=
  c.isDigit || ('a' ≤ c && c ≤ 'f') || ('A' ≤ c && c ≤ 'F')

def hexValue (c : Char) : Nat :=
  if c.isDigit then c.toNat - '0'.toNat
  else if 'a' ≤ c then c.toNat - 'a'.toNat + 10
  else c.toNat - 'A'.toNat + 10

def hexNumber (cs : List Char) : Nat :=
  cs.foldl (fun n c => n * 16 + hexValue c) 0

/-- Reads a character given by a fixed number of hexadecimal digits; surrogates and numbers beyond
Unicode are none. -/
def readCodePoint? (width : Nat) (cs : List Char) : Option (Char × List Char) :=
  let ds := cs.take width
  let n := hexNumber ds
  if ds.length = width && ds.all isHexDigit && decide (n.isValidChar) then
    some (Char.ofNat n, cs.drop width)
  else none

/-- Reads what follows a backslash. -/
def readEscape? : List Char → Option (Char × List Char)
  | 'b' :: rest => some ('\x08', rest)
  | 't' :: rest => some ('\t', rest)
  | 'n' :: rest => some ('\n', rest)
  | 'f' :: rest => some ('\x0c', rest)
  | 'r' :: rest => some ('\r', rest)
  | '"' :: rest => some ('"', rest)
  | '\\' :: rest => some ('\\', rest)
  | 'u' :: rest => readCodePoint? 4 rest
  | 'U' :: rest => readCodePoint? 8 rest
  | _ => none

/-- Skips white space and line ends; `fuel` bounds the number of characters. -/
def skipLines : Nat → List Char → List Char
  | 0, cs => cs
  | fuel + 1, cs =>
    match skipNewline? cs with
    | some rest => skipLines fuel rest
    | none =>
      match cs with
      | c :: rest => if isSpace c then skipLines fuel rest else cs
      | [] => []

/-- A backslash at the end of a line swallows the line end and all white space after it. -/
def skipLineEnd? (cs : List Char) : Option (List Char) :=
  (skipNewline? (skipSpace cs)).map fun rest => skipLines rest.length rest

/-- Reads on to the closing quote; `done` holds the characters so far, last first. -/
def readBasic? : Nat → List Char → List Char → Option (List Char × List Char)
  | 0, _, _ => none
  | _ + 1, done, '"' :: rest => some (done.reverse, rest)
  | fuel + 1, done, '\\' :: rest => do
    let (c, rest) ← readEscape? rest
    readBasic? fuel (c :: done) rest
  | fuel + 1, done, c :: rest => if isBasicChar c then readBasic? fuel (c :: done) rest else none
  | _ + 1, _, [] => none

/-- A run of quotes in a text with triple quotes.  Fewer than three belong to the text.  Three close
it, and up to two more in front of them still belong to it.  Gives the number of quotes that belong
to the text, what follows, and whether the text is closed. -/
def quoteRun (quote : Char) (cs : List Char) : Nat × List Char × Bool :=
  let run := (cs.takeWhile (· = quote)).length
  if run < 3 then (run, cs.drop run, false)
  else
    let kept := min (run - 3) 2
    (kept, cs.drop (kept + 3), true)

/-- Reads on to the closing triple quote.  With `escapes` the backslash is special. -/
def readTriple? (quote : Char) (escapes : Bool) :
    Nat → List Char → List Char → Option (List Char × List Char)
  | 0, _, _ => none
  | _ + 1, _, [] => none
  | fuel + 1, done, c :: rest =>
    if c = quote then
      let (kept, rest, closed) := quoteRun quote (c :: rest)
      let done := List.replicate kept quote ++ done
      if closed then some (done.reverse, rest) else readTriple? quote escapes fuel done rest
    else if escapes && c = '\\' then
      match skipLineEnd? rest with
      | some rest => readTriple? quote escapes fuel done rest
      | none => do
        let (c, rest) ← readEscape? rest
        readTriple? quote escapes fuel (c :: done) rest
    else
      match skipNewline? (c :: rest) with
      | some rest => readTriple? quote escapes fuel ('\n' :: done) rest
      | none => if isCommentChar c then readTriple? quote escapes fuel (c :: done) rest else none

/-- Reads a text with triple quotes, after the opening; a line end directly there is left out. -/
def readMultiline? (quote : Char) (escapes : Bool) (cs : List Char) : Option (List Char × List Char) :=
  let cs := (skipNewline? cs).getD cs
  readTriple? quote escapes (cs.length + 1) [] cs

/-- Reads on to the closing apostrophe. -/
def readLiteral? (cs : List Char) : Option (List Char × List Char) :=
  match cs.dropWhile isLiteralChar with
  | '\'' :: rest => some (cs.takeWhile isLiteralChar, rest)
  | _ => none

/-- Reads a string on one line. -/
def readLineString? : List Char → Option (String × List Char)
  | '"' :: rest => (readBasic? (rest.length + 1) [] rest).map fun r => (String.ofList r.1, r.2)
  | '\'' :: rest => (readLiteral? rest).map fun r => (String.ofList r.1, r.2)
  | _ => none

/-- Reads a string of any of the four kinds. -/
def readString? (cs : List Char) : Option (String × List Char) :=
  match skip? "\"\"\"" cs, skip? "'''" cs with
  | some rest, _ => (readMultiline? '"' true rest).map fun r => (String.ofList r.1, r.2)
  | _, some rest => (readMultiline? '\'' false rest).map fun r => (String.ofList r.1, r.2)
  | none, none => readLineString? cs

/-! ## Numbers -/

/-- Reads digits in which single underscores may stand between two digits; `done` holds the digits so
far, last first. -/
def readMore? (isDigit : Char → Bool) : List Char → List Char → Option (List Char × List Char)
  | done, '_' :: c :: rest => if isDigit c then readMore? isDigit (c :: done) rest else none
  | done, c :: rest =>
    if isDigit c then readMore? isDigit (c :: done) rest
    else if c = '_' then none
    else some (done.reverse, c :: rest)
  | done, [] => some (done.reverse, [])

/-- Reads digits, at least one. -/
def readDigits? (isDigit : Char → Bool) : List Char → Option (List Char × List Char)
  | c :: rest => if isDigit c then readMore? isDigit [c] rest else none
  | [] => none

def readSign : List Char → Bool × List Char
  | '+' :: rest => (false, rest)
  | '-' :: rest => (true, rest)
  | cs => (false, cs)

/-- Reads the digits of a decimal integer, which begin with a zero only if that is all of them. -/
def readWhole? : List Char → Option (List Char × List Char)
  | '0' :: rest => some (['0'], rest)
  | cs => readDigits? Char.isDigit cs

/-- Reads an exponent with its letter, as it is to be read again. -/
def readExponentPart? : List Char → Option (List Char × List Char)
  | c :: rest =>
    if c = 'e' ∨ c = 'E' then do
      let (negative, rest) := readSign rest
      let (ds, rest) ← readDigits? Char.isDigit rest
      some ('e' :: (if negative then '-' :: ds else ds), rest)
    else none
  | [] => none

/-- Reads a number with a fraction, an exponent, or both.  A number too large for a double is none. -/
def readDecimalFloat? (cs : List Char) : Option (Binary64 × List Char) := do
  let (negative, rest) := readSign cs
  let (whole, rest) ← readWhole? rest
  let (tail, rest) ← match rest with
    | '.' :: rest => do
      let (fraction, rest) ← readDigits? Char.isDigit rest
      match readExponentPart? rest with
      | some (exponent, rest) => some ('.' :: fraction ++ exponent, rest)
      | none => some ('.' :: fraction, rest)
    | rest => readExponentPart? rest
  let value ← readMagnitude? negative (whole ++ tail)
  if value = .infinity false then none else some (value, rest)

/-- Reads `inf` or `nan` with an optional sign. -/
def readSpecialFloat? (cs : List Char) : Option (Binary64 × List Char) :=
  let (negative, rest) := readSign cs
  match skip? "inf" rest, skip? "nan" rest with
  | some rest, _ => some (.infinity negative, rest)
  | _, some rest => some (.nan, rest)
  | none, none => none

/-- Reads an integer to the base sixteen, eight or two, after its two letters. -/
def readBased? (base : Nat) (isDigit : Char → Bool) (cs : List Char) : Option (Int × List Char) := do
  let (ds, rest) ← readDigits? isDigit cs
  let n : Int := ds.foldl (fun n c => n * base + hexValue c) 0
  if n ≤ 9223372036854775807 then some (n, rest) else none

def readDecimalInteger? (cs : List Char) : Option (Int × List Char) := do
  let (negative, rest) := readSign cs
  let (ds, rest) ← readWhole? rest
  let n : Int := Nat.ofDigitChars 10 ds 0
  let i := if negative then -n else n
  if -9223372036854775808 ≤ i ∧ i ≤ 9223372036854775807 then some (i, rest) else none

/-- Reads an integer of 64 bits in any of the four bases. -/
def readInteger? : List Char → Option (Int × List Char)
  | '0' :: 'x' :: rest => readBased? 16 isHexDigit rest
  | '0' :: 'o' :: rest => readBased? 8 (fun c => '0' ≤ c && c ≤ '7') rest
  | '0' :: 'b' :: rest => readBased? 2 (fun c => c = '0' || c = '1') rest
  | cs => readDecimalInteger? cs

/-! ## Dates and times -/

/-- Reads a fixed number of digits as a number within limits. -/
def readField? (width least most : Nat) (cs : List Char) : Option (Nat × List Char) :=
  let ds := cs.take width
  let n := Nat.ofDigitChars 10 ds 0
  if ds.length = width && ds.all Char.isDigit && decide (least ≤ n) && decide (n ≤ most) then
    some (n, cs.drop width)
  else none

def isLeapYear (year : Nat) : Bool :=
  year % 4 = 0 && (year % 100 ≠ 0 || year % 400 = 0)

def daysInMonth (year month : Nat) : Nat :=
  if month = 2 then (if isLeapYear year then 29 else 28)
  else if month = 4 ∨ month = 6 ∨ month = 9 ∨ month = 11 then 30
  else 31

/-- Skips a date that exists. -/
def skipDate? (cs : List Char) : Option (List Char) := do
  let (year, cs) ← readField? 4 0 9999 cs
  let cs ← skip? "-" cs
  let (month, cs) ← readField? 2 1 12 cs
  let cs ← skip? "-" cs
  let (_, cs) ← readField? 2 1 (daysInMonth year month) cs
  some cs

/-- Skips a time of day; a leap second is one. -/
def skipTime? (cs : List Char) : Option (List Char) := do
  let (_, cs) ← readField? 2 0 23 cs
  let cs ← skip? ":" cs
  let (_, cs) ← readField? 2 0 59 cs
  let cs ← skip? ":" cs
  let (_, cs) ← readField? 2 0 60 cs
  match cs with
  | '.' :: c :: rest => if c.isDigit then some (rest.dropWhile Char.isDigit) else some cs
  | cs => some cs

/-- Skips the offset of a time of day. -/
def skipOffset? : List Char → Option (List Char)
  | c :: rest =>
    if c = 'Z' ∨ c = 'z' then some rest
    else if c = '+' ∨ c = '-' then do
      let (_, cs) ← readField? 2 0 23 rest
      let cs ← skip? ":" cs
      let (_, cs) ← readField? 2 0 59 cs
      some cs
    else none
  | [] => none

/-- Skips what may follow a date: a time of day, and its offset. -/
def skipTimeAfterDate? : List Char → Option (List Char)
  | c :: rest =>
    if c = 'T' ∨ c = 't' ∨ c = ' ' then do
      let cs ← skipTime? rest
      some ((skipOffset? cs).getD cs)
    else none
  | [] => none

/-- Skips a date, a time of day, or both. -/
def skipDateTime? (cs : List Char) : Option (List Char) :=
  match skipDate? cs with
  | some rest => some ((skipTimeAfterDate? rest).getD rest)
  | none => skipTime? cs

/-- Reads a date or time, a float or an integer. -/
def readNumber? (cs : List Char) : Option (Value × List Char) :=
  match skipDateTime? cs, readDecimalFloat? cs, readSpecialFloat? cs, readInteger? cs with
  | some rest, _, _, _ => some (.dateTime, rest)
  | none, some (x, rest), _, _ => some (.float x, rest)
  | none, none, some (x, rest), _ => some (.float x, rest)
  | none, none, none, some (i, rest) => some (.integer i, rest)
  | none, none, none, none => none

end SampleForge.Settings
