import SampleForge.Settings.Scalar

/-!
# Settings documents

`readDocument?` reads a whole TOML 1.0 document into its entries: keys with values, and headers under
which tables or lists of tables come into being.  `none` means that the text is no such document,
be it for its form or because a key is set twice.

`readDocument?`, with the readers of scalars under it, stands for the parser of the package `toml`.  That
it accepts the same texts and finds the same entries was tested and is not proved.
-/

namespace SampleForge.Settings

/-- The characters of a key without quotes. -/
def isKeyChar (c : Char) : Bool :=
  c.isAlphanum || c = '_' || c = '-'

/-- Reads one part of a key. -/
def readKeyPart? (cs : List Char) : Option (String × List Char) :=
  match readLineString? cs with
  | some result => some result
  | none =>
    let part := cs.takeWhile isKeyChar
    if part.isEmpty then none else some (String.ofList part, cs.dropWhile isKeyChar)

/-- A key has fewer parts than this, and values are nested less deep. -/
def nestingLimit : Nat := 80

/-- Reads the parts of a key, dots between them; `fuel` bounds the number of further parts. -/
def readKeyParts? : Nat → List Char → Option (List String × List Char)
  | 0, _ => none
  | fuel + 1, cs => do
    let (part, cs) ← readKeyPart? (skipSpace cs)
    match skipSpace cs with
    | '.' :: rest => do
      let (parts, rest) ← readKeyParts? fuel rest
      some (part :: parts, rest)
    | rest => some ([part], rest)

/-- A key: the path of tables and the name in the last of them. -/
structure Key where
  path : List String
  name : String

/-- Reads a key with the white space around it. -/
def readKey? (cs : List Char) : Option (Key × List Char) := do
  let (parts, rest) ← readKeyParts? (nestingLimit - 1) cs
  let name ← parts.getLast?
  some (⟨parts.dropLast, name⟩, rest)

/-- Skips a comment up to the end of its line. -/
def skipComment (cs : List Char) : List Char :=
  match cs with
  | '#' :: rest => rest.dropWhile isCommentChar
  | cs => cs

/-- Skips what may follow on a line, with its end. -/
def skipLineRest? (cs : List Char) : Option (List Char) :=
  match skipComment (skipSpace cs) with
  | [] => some []
  | rest => skipNewline? rest

/-- Skips white space, line ends and whole comments. -/
def skipBlank? : Nat → List Char → Option (List Char)
  | 0, cs => some cs
  | fuel + 1, cs =>
    match skipSpace cs with
    | '#' :: rest => (skipNewline? (skipComment ('#' :: rest))).bind (skipBlank? fuel)
    | rest =>
      match skipNewline? rest with
      | some rest => skipBlank? fuel rest
      | none => some rest

mutual

/-- Reads a value.  `fuel` bounds the steps of reading, `depth` counts the brackets around it. -/
def readValue? : (fuel depth : Nat) → List Char → Option (Value × List Char)
  | 0, _, _ => none
  | fuel + 1, depth, cs =>
    match cs with
    | '"' :: _ => (readString? cs).map fun r => (.text r.1, r.2)
    | '\'' :: _ => (readString? cs).map fun r => (.text r.1, r.2)
    | '[' :: rest =>
      if depth + 1 < nestingLimit then readItems? fuel (depth + 1) [] rest else none
    | '\x7b' :: rest =>
      if depth + 1 < nestingLimit then
        match skipSpace rest with
        | '\x7d' :: rest => some (.table .inline [], rest)
        | rest => readPairs? fuel (depth + 1) (.empty .inline) rest
      else none
    | _ =>
      match skip? "true" cs, skip? "false" cs with
      | some rest, _ => some (.boolean true, rest)
      | _, some rest => some (.boolean false, rest)
      | none, none => readNumber? cs

/-- Reads the items of an array after the bracket or a comma; `done` holds the earlier ones, last
first. -/
def readItems? : (fuel depth : Nat) → List Value → List Char → Option (Value × List Char)
  | 0, _, _, _ => none
  | fuel + 1, depth, done, cs => do
    match ← skipBlank? cs.length cs with
    | ']' :: rest => some (.array done.reverse, rest)
    | cs => do
      let (item, cs) ← readValue? fuel depth cs
      match ← skipBlank? cs.length cs with
      | ',' :: rest => readItems? fuel depth (item :: done) rest
      | ']' :: rest => some (.array (item :: done).reverse, rest)
      | _ => none

/-- Reads keys and values between braces, at least one. -/
def readPairs? : (fuel depth : Nat) → Table → List Char → Option (Value × List Char)
  | 0, _, _, _ => none
  | fuel + 1, depth, table, cs => do
    let (key, cs) ← readKey? cs
    let cs ← skip? "=" cs
    let (value, cs) ← readValue? fuel depth (skipSpace cs)
    let table ← table.insert key.path key.name value
    match skipSpace cs with
    | ',' :: rest => readPairs? fuel depth table rest
    | '\x7d' :: rest => some (.table .inline table.entries, rest)
    | _ => none

end

/-- A document on the way through its lines: the finished part, and the table under the last header
with its key. -/
structure DocumentReader where
  finished : Table
  current : Table
  /-- The key of the header; none before the first one. -/
  header : Option Key
  /-- Whether the header adds a table to a list of tables. -/
  listed : Bool

namespace DocumentReader

def start : DocumentReader := ⟨.empty .defined, .empty .defined, none, false⟩

/-- Puts the current table where its header wants it. -/
def close? (r : DocumentReader) : Option Table :=
  match r.header with
  | none => some r.current
  | some key =>
    let attach := if r.listed then Table.attachOne else Table.attach
    (r.finished.update false (attach key.name r.current.entries) key.path).map Prod.snd

/-- Goes on under a new header. -/
def openHeader? (r : DocumentReader) (key : Key) (listed : Bool) : Option DocumentReader := do
  let finished ← r.close?
  if listed then some ⟨finished, .empty .defined, some key, true⟩
  else do
    let (entries, finished) ← finished.update false (Table.detach key.name) key.path
    some ⟨finished, ⟨.defined, entries⟩, some key, false⟩

/-- Sets a key of the current table. -/
def set? (r : DocumentReader) (key : Key) (value : Value) : Option DocumentReader :=
  (r.current.insert key.path key.name value).map fun current => { r with current := current }

end DocumentReader

/-- Reads a header line after its first bracket. -/
def readHeader? (r : DocumentReader) (cs : List Char) : Option (DocumentReader × List Char) :=
  match cs with
  | '[' :: cs => do
    let (key, cs) ← readKey? cs
    let cs ← skip? "]]" cs
    let cs ← skipLineRest? cs
    let r ← r.openHeader? key true
    some (r, cs)
  | cs => do
    let (key, cs) ← readKey? cs
    let cs ← skip? "]" cs
    let cs ← skipLineRest? cs
    let r ← r.openHeader? key false
    some (r, cs)

/-- Reads a line that sets a key. -/
def readAssignment? (r : DocumentReader) (cs : List Char) : Option (DocumentReader × List Char) := do
  let (key, cs) ← readKey? cs
  let cs ← skip? "=" cs
  let (value, cs) ← readValue? (cs.length + 1) 0 (skipSpace cs)
  let cs ← skipLineRest? cs
  let r ← r.set? key value
  some (r, cs)

/-- Reads line after line; `fuel` bounds their number. -/
def readStatements? : Nat → DocumentReader → List Char → Option DocumentReader
  | 0, _, _ => none
  | fuel + 1, r, cs =>
    match skipSpace cs with
    | [] => some r
    | '[' :: rest => do
      let (r, cs) ← readHeader? r rest
      readStatements? fuel r cs
    | c :: rest =>
      if c = '#' ∨ c = '\n' ∨ c = '\r' then do
        let cs ← skipLineRest? (c :: rest)
        readStatements? fuel r cs
      else do
        let (r, cs) ← readAssignment? r (c :: rest)
        readStatements? fuel r cs

/-- Reads a document; a byte order mark in front means nothing. -/
def readDocument? (text : String) : Option Entries := do
  let cs := match text.toList with
    | '\uFEFF' :: rest => rest
    | cs => cs
  let r ← readStatements? (cs.length + 1) .start cs
  let root ← r.close?
  some root.entries

end SampleForge.Settings
