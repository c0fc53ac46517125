import SampleForge.Proofs.Corpus.HeaderReading
import SampleForge.Proofs.Corpus.Parts

/-!
# The reading of a corpus file

`CorpusReading` puts the reading of a header and the reading of parts together: the first line must
be the title, the longest run of `#` lines after it is the header, and what follows is split into
parts.  A fault of the header comes before any fault of the parts.

The reading is a relation between the lines of a text and an outcome.  The main statement
`readCorpus_eq_iff_corpusReading` says that every text has exactly one outcome in this relation, the
one that the reader gives.
-/

namespace SampleForge

open Text

/-- The line begins with `#`, apart from white space. -/
def isHashLine (line : Line) : Bool :=
  (trim line).head? == some '#'

/-- What the lines of a corpus file amount to. -/
inductive CorpusReading : List Line → Except CorpusFault Corpus → Prop
  | noTitle {lines : List Line}
      (untitled : ∀ first ∈ lines.head?, trim first ≠ titleLine.toList) :
      CorpusReading lines (.error .noTitle)
  | headerFault {title : Line} {rest : List Line} {fault : CorpusFault}
      (titled : trim title = titleLine.toList)
      (header : HeaderReading (rest.takeWhile isHashLine) (.error fault)) :
      CorpusReading (title :: rest) (.error fault)
  | programsFault {title : Line} {rest : List Line} {provenance : Provenance}
      {fault : CorpusFault} (titled : trim title = titleLine.toList)
      (header : HeaderReading (rest.takeWhile isHashLine) (.ok provenance))
      (parts : ProgramsReading (keptParts (rest.dropWhile isHashLine)) (.error fault)) :
      CorpusReading (title :: rest) (.error fault)
  | corpus {title : Line} {rest : List Line} {provenance : Provenance} {programs : List String}
      (titled : trim title = titleLine.toList)
      (header : HeaderReading (rest.takeWhile isHashLine) (.ok provenance))
      (parts : ProgramsReading (keptParts (rest.dropWhile isHashLine)) (.ok programs)) :
      CorpusReading (title :: rest) (.ok ⟨provenance, programs⟩)

theorem isHeaderLine_eq : isHeaderLine = isHashLine := by
  funext line
  rw [isHashLine, head?_trim, Bool.eq_iff_iff, beq_iff_eq]
  exact decide_eq_true_iff

theorem lineIs_iff {text : String} {line : Line} :
    lineIs text line = true ↔ trim line = text.toList :=
  decide_eq_true_iff

theorem readCorpusLines_of_titled {title : Line} (htitle : trim title = titleLine.toList)
    (rest : List Line) :
    readCorpusLines (title :: rest) = (do
      let header ← readHeader (rest.takeWhile isHashLine)
      let programs ← readPrograms (rest.dropWhile isHashLine)
      pure ⟨header, programs⟩) := by
  rw [readCorpusLines, if_pos (lineIs_iff.2 htitle), isHeaderLine_eq]

theorem readCorpusLines_of_untitled {lines : List Line}
    (h : ∀ first ∈ lines.head?, trim first ≠ titleLine.toList) :
    readCorpusLines lines = .error .noTitle := by
  cases lines with
  | nil => rfl
  | cons title rest =>
      have htitle : ¬ lineIs titleLine title = true := fun hline =>
        h title rfl (lineIs_iff.1 hline)
      exact if_neg htitle

theorem corpusReading_readCorpusLines (lines : List Line) :
    CorpusReading lines (readCorpusLines lines) := by
  by_cases huntitled : ∀ first ∈ lines.head?, trim first ≠ titleLine.toList
  · rw [readCorpusLines_of_untitled huntitled]
    exact .noTitle huntitled
  · cases lines with
    | nil => exact absurd (by simp) huntitled
    | cons title rest =>
        have htitle : trim title = titleLine.toList := by simpa using huntitled
        rw [readCorpusLines_of_titled htitle]
        cases hheader : readHeader (rest.takeWhile isHashLine) with
        | error fault => exact .headerFault htitle (readHeader_eq_iff.1 hheader)
        | ok provenance =>
            cases hprograms : readPrograms (rest.dropWhile isHashLine) with
            | error fault =>
                exact .programsFault htitle (readHeader_eq_iff.1 hheader)
                  (readPrograms_eq_iff.1 hprograms)
            | ok programs =>
                exact .corpus htitle (readHeader_eq_iff.1 hheader)
                  (readPrograms_eq_iff.1 hprograms)

theorem readCorpusLines_eq_iff {lines : List Line} {outcome : Except CorpusFault Corpus} :
    readCorpusLines lines = outcome ↔ CorpusReading lines outcome := by
  constructor
  · rintro rfl
    exact corpusReading_readCorpusLines lines
  · intro h
    cases h with
    | noTitle huntitled => exact readCorpusLines_of_untitled huntitled
    | headerFault htitle hheader =>
        rw [readCorpusLines_of_titled htitle, readHeader_eq_iff.2 hheader]
        rfl
    | programsFault htitle hheader hprograms =>
        rw [readCorpusLines_of_titled htitle, readHeader_eq_iff.2 hheader]
        change (readPrograms _ >>= fun programs => _) = _
        rw [readPrograms_eq_iff.2 hprograms]
        rfl
    | corpus htitle hheader hprograms =>
        rw [readCorpusLines_of_titled htitle, readHeader_eq_iff.2 hheader]
        change (readPrograms _ >>= fun programs => _) = _
        rw [readPrograms_eq_iff.2 hprograms]
        rfl

/-- Reading a text gives an outcome exactly if that is what its lines amount to. -/
theorem readCorpus_eq_iff_corpusReading (text : String) (outcome : Except CorpusFault Corpus) :
    readCorpus text = outcome ↔ CorpusReading (lines text.toList) outcome :=
  readCorpusLines_eq_iff

end SampleForge
