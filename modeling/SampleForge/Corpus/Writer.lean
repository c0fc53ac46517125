import SampleForge.Sample
import SampleForge.Text.Blank

/-!
# Corpus files

A corpus is what a corpus file holds: a header with the seed and the declared number of programs,
and the programs in order.  `Corpus.checkCount` compares the declared number with the programs that are
there.

A corpus file is written as the title, the two header lines, a blank line, a separator line, and the
programs with separator lines between them.  White space at the end of a program is left out.  Without
any program the file ends with an empty line after the separator.
-/

namespace SampleForge

/-- The first line of every corpus file. -/
def titleLine : String := "# Curlee correct_samples dataset"

/-- The line between two programs. -/
def separatorLine : String := "---"

/-- The keys of the header. -/
inductive HeaderKey where
  | seed
  | count
deriving DecidableEq

def HeaderKey.name : HeaderKey → String
  | .seed => "seed"
  | .count => "count"

/-- Why a text is no corpus, or a corpus does not keep its promise. -/
inductive CorpusFault where
  | noTitle
  | noHeader (key : HeaderKey)
  | badHeader (key : HeaderKey) (value : String)
  | emptyProgram (position : Nat)
  | wrongCount (declared : UInt64) (found : Nat)
deriving DecidableEq

def CorpusFault.message : CorpusFault → String
  | .noTitle => "missing or incorrect dataset title line"
  | .noHeader key => "missing '# " ++ key.name ++ "=<int>' header"
  | .badHeader key value =>
    "header key '" ++ key.name ++ "' has invalid value: '" ++ value ++ "'"
  | .emptyProgram position => "program block " ++ toString position ++ " is empty"
  | .wrongCount declared found =>
    "declared count=" ++ toString declared.toNat ++ " but found " ++ toString found ++
      " program blocks"

/-- Where the programs of a corpus came from. -/
structure Provenance where
  seed : Int64
  count : UInt64
deriving DecidableEq

/-- A header and the programs under it. -/
structure Corpus where
  header : Provenance
  programs : List String
deriving DecidableEq

/-- Checks that there are as many programs as the header declares. -/
def Corpus.checkCount (corpus : Corpus) : Except CorpusFault Unit :=
  if corpus.programs.length = corpus.header.count.toNat then .ok ()
  else .error (.wrongCount corpus.header.count corpus.programs.length)

/-- The text of a corpus file with the given header and programs. -/
def corpusText (seed : Int64) (count : Nat) (programs : List String) : String :=
  titleLine ++ "\n# " ++ HeaderKey.seed.name ++ "=" ++
    String.ofList (Text.integerDigits seed.toInt) ++ "\n# " ++ HeaderKey.count.name ++ "=" ++
    String.ofList (Text.digits count) ++ "\n\n" ++ separatorLine ++ "\n" ++
    String.intercalate ("\n" ++ separatorLine ++ "\n") programs ++ "\n"

/-- The source of a sample without white space at its end. -/
def Sample.trimmedProgram (sample : Sample) : String :=
  String.ofList (Text.trimEnd sample.program.toList)

/-- The corpus file of a list of samples. -/
def writeCorpus (seed : Int64) (count : UInt32) (samples : List Sample) : String :=
  corpusText seed count.toNat (samples.map Sample.trimmedProgram)

end SampleForge
