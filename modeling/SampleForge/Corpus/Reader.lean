import SampleForge.Corpus.Writer
import SampleForge.Text.Blank
import SampleForge.Text.Lines
import SampleForge.Text.Numeral

/-!
# Reading a corpus file

Reading goes through the lines once.  The first line must be the title.  The run of lines beginning
with `#` is the header; for each key the first line that carries it counts, and it must hold a
numeral in range.  Separator lines cut the rest into blocks.  What stands before the first
separator may be blank, and so may the lines after the last one; any other blank block is an error.
White space around title, header lines, separators and programs means nothing.
-/

namespace SampleForge

open Text

/-- A line of text, without its line end. -/
abbrev Line := List Char

/-- Whether a line, apart from white space around it, is the given text. -/
def lineIs (text : String) (line : Line) : Bool :=
  trim line = text.toList

/-- Whether a line belongs to a header. -/
def isHeaderLine (line : Line) : Bool :=
  (trimStart line).head? = some '#'

/-- What follows `start` in a list that begins with it. -/
def after? (start cs : List Char) : Option (List Char) :=
  if start.isPrefixOf cs then some (cs.drop start.length) else none

/-- What follows `# key=` on a line that begins so. -/
def headerValue? (key : HeaderKey) (line : Line) : Option (List Char) :=
  after? ("# " ++ key.name ++ "=").toList (trim line)

/-- Reads the value of a key from a line; `none` if the line does not carry the key. -/
def readHeaderValue {α : Type} (key : HeaderKey) (read : List Char → Option α) (line : Line) :
    Except CorpusFault (Option α) :=
  match headerValue? key line with
  | none => .ok none
  | some value =>
    match read value with
    | none => .error (.badHeader key (String.ofList value))
    | some a => .ok (some a)

/-- The header values found so far. -/
structure HeaderFields where
  seed : Option Int64
  count : Option UInt64

/-- Looks at one more header line, for the values that are still missing. -/
def HeaderFields.read (fields : HeaderFields) (line : Line) : Except CorpusFault HeaderFields := do
  let seed ← match fields.seed with
    | some seed => pure (some seed)
    | none => readHeaderValue .seed readInt64? line
  let count ← match fields.count with
    | some count => pure (some count)
    | none => readHeaderValue .count readUInt64? line
  pure ⟨seed, count⟩

/-- Reads the header from its lines. -/
def readHeader (lines : List Line) : Except CorpusFault Provenance := do
  let fields ← lines.foldlM HeaderFields.read ⟨none, none⟩
  match fields.seed, fields.count with
  | none, _ => throw (.noHeader .seed)
  | some _, none => throw (.noHeader .count)
  | some seed, some count => pure ⟨seed, count⟩

/-- The lines of a program block. -/
abbrev Block := List Line

def isBlankBlock (block : Block) : Bool :=
  block.all allBlank

/-- The text of a block without white space around it. -/
def blockProgram (block : Block) : List Char :=
  trim (List.intercalate ['\n'] block)

/-- Blocks on the way through the lines: the closed ones and the lines of the open one, each with
the latest first. -/
structure BlockReader where
  closed : List Block
  current : List Line

/-- A separator line closes the open block, any other line belongs to it. -/
def BlockReader.read (reader : BlockReader) (line : Line) : BlockReader :=
  if lineIs separatorLine line then ⟨reader.current.reverse :: reader.closed, []⟩
  else ⟨reader.closed, line :: reader.current⟩

/-- All blocks in order; the open one counts unless it is blank. -/
def BlockReader.finish (reader : BlockReader) : List Block :=
  let last := reader.current.reverse
  (if isBlankBlock last then reader.closed else last :: reader.closed).reverse

/-- Leaves out a blank block at the beginning. -/
def dropLeadingBlank : List Block → List Block
  | [] => []
  | block :: rest => if isBlankBlock block then rest else block :: rest

/-- The program of a block, which must not be blank. -/
def readProgram (block : Block) (position : Nat) : Except CorpusFault String :=
  if isBlankBlock block then .error (.emptyProgram position)
  else .ok (String.ofList (blockProgram block))

/-- Reads the programs from the lines after the header. -/
def readPrograms (lines : List Line) : Except CorpusFault (List String) :=
  let blocks := dropLeadingBlank (lines.foldl BlockReader.read ⟨[], []⟩).finish
  (blocks.zipIdx 1).mapM fun numbered => readProgram numbered.1 numbered.2

/-- Reads a corpus from the lines of its file. -/
def readCorpusLines : List Line → Except CorpusFault Corpus
  | [] => .error .noTitle
  | title :: rest =>
    if lineIs titleLine title then do
      let header ← readHeader (rest.takeWhile isHeaderLine)
      let programs ← readPrograms (rest.dropWhile isHeaderLine)
      pure ⟨header, programs⟩
    else .error .noTitle

/-- Reads a corpus from the text of its file. -/
def readCorpus (text : String) : Except CorpusFault Corpus :=
  readCorpusLines (lines text.toList)

end SampleForge
