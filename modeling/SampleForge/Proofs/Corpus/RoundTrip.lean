import SampleForge.Proofs.Corpus.Written
import SampleForge.Proofs.Expr.Rendering
import SampleForge.Sample

/-!
# Samples survive the corpus file

The program of a sample has three lines, and every one of them holds a character that no separator
line has.  Its text begins with a letter and ends with a brace and a line feed, so trimming takes
away that line feed only.  `readCorpus_writeCorpus` puts this together with what is known of written
files: a list of samples of any length is read back whole, whatever count stands in the header, and
the check of the count decides whether the two agree.
-/

namespace SampleForge

open Text

/-- A separator line holds hyphens and white space only. -/
theorem isSeparator_eq_false {line : Line} {c : Char} (hmem : c ∈ line)
    (hblank : isBlank c = false) (hhyphen : c ≠ '-') : isSeparator line = false := by
  refine decide_eq_false fun htrim => ?_
  obtain ⟨-, before, after, hbefore, hafter, rfl⟩ := trim_eq_iff.1 htrim
  rcases List.mem_append.1 hmem with hmem | hmem
  · rcases List.mem_append.1 hmem with hmem | hmem
    · rw [allBlank_iff.1 hbefore c hmem] at hblank
      contradiction
    · have hall : ∀ d ∈ separatorLine.toList, d = '-' := by simp [separatorLine]
      exact hhyphen (hall c hmem)
  · rw [allBlank_iff.1 hafter c hmem] at hblank
    contradiction

/-! ## The lines of a sample -/

namespace Sample

/-- The first line of every program. -/
def openingLine : Line := "fn main() -> Int \x7b".toList

/-- The line that returns the expression. -/
def returnLine (expr : Expr) : Line := "  return ".toList ++ expr.render.toList ++ [';']

/-- The last line of every program. -/
def closingLine : Line := ['\x7d']

/-- The lines of the program of a sample. -/
def sourceLines (sample : Sample) : List Line :=
  [openingLine, returnLine sample.expr, closingLine]

theorem toList_program (sample : Sample) :
    sample.program.toList =
      openingLine ++ '\n' :: returnLine sample.expr ++ '\n' :: closingLine ++ ['\n'] := by
  have happend : sample.program.toList = "fn main() -> Int \x7b\n  return ".toList ++
      sample.expr.render.toList ++ ";\n\x7d\n".toList := by
    unfold program programText
    simp only [String.toList_append]
  have hopening : "fn main() -> Int \x7b\n  return ".toList =
      openingLine ++ '\n' :: "  return ".toList := by decide
  have hclosing : ";\n\x7d\n".toList = ';' :: '\n' :: closingLine ++ ['\n'] := by decide
  rw [happend, hopening, hclosing]
  unfold returnLine
  simp only [List.append_assoc, List.cons_append, List.nil_append]

theorem partText_sourceLines (sample : Sample) :
    partText sample.sourceLines = sample.program.toList := by
  rw [toList_program]
  unfold sourceLines
  simp only [partText_cons, partText_nil, List.append_assoc, List.cons_append]

theorem semicolon_mem_returnLine (expr : Expr) : ';' ∈ returnLine expr :=
  List.mem_append_right _ List.mem_cons_self

theorem clean_returnLine (expr : Expr) : Clean (returnLine expr) := by
  have hstart : Clean "  return ".toList := by decide
  have hend : Clean [';'] := by decide
  have hexpr : Clean expr.render.toList := by
    refine clean_iff.2 fun c hc => ?_
    rcases Expr.mem_render hc with hdigit | hother
    · constructor <;> rintro rfl <;> contradiction
    · have hall : ∀ d ∈ [' ', '+', '(', ')'], d ≠ '\n' ∧ d ≠ '\r' := by simp
      exact hall c hother
  exact (hstart.append hexpr).append hend

theorem clean_of_mem {sample : Sample} {line : Line} (hline : line ∈ sample.sourceLines) :
    Clean line := by
  simp only [sourceLines, List.mem_cons, List.not_mem_nil, or_false] at hline
  rcases hline with rfl | rfl | rfl
  · decide
  · exact clean_returnLine sample.expr
  · decide

theorem isSeparator_of_mem {sample : Sample} {line : Line} (hline : line ∈ sample.sourceLines) :
    isSeparator line = false := by
  simp only [sourceLines, List.mem_cons, List.not_mem_nil, or_false] at hline
  rcases hline with rfl | rfl | rfl
  · decide
  · exact isSeparator_eq_false (c := ';') (semicolon_mem_returnLine sample.expr) (by decide)
      (by decide)
  · decide

/-- Trimming the end of a program takes away its last line feed. -/
theorem toList_trimmedProgram (sample : Sample) :
    sample.trimmedProgram.toList ++ ['\n'] = sample.program.toList := by
  have hfeed : allBlank ['\n'] = true := by decide
  have hlast : ∀ c ∈ (openingLine ++ '\n' :: returnLine sample.expr ++
      '\n' :: closingLine).getLast?, isBlank c = false := by
    -- The closing brace stays.
    intro c hc
    rw [List.getLast?_append_of_ne_nil _ (List.cons_ne_nil '\n' closingLine)] at hc
    obtain rfl : '\x7d' = c := Option.some.inj hc
    decide
  unfold trimmedProgram
  rw [toList_program, trimEnd_append_of_allBlank hfeed, trimEnd_eq_self hlast,
    String.toList_ofList]

/-- No white space stands in front of a program. -/
theorem trim_program (sample : Sample) :
    String.ofList (trim sample.program.toList) = sample.trimmedProgram := by
  have hfirst : sample.program.toList.head? = some 'f' := by
    rw [toList_program]
    rfl
  have hstart : trimStart sample.program.toList = sample.program.toList := by
    refine trimStart_eq_self fun c hc => ?_
    obtain rfl : 'f' = c := Option.some.inj (hfirst.symm.trans hc)
    decide
  unfold trim
  rw [hstart]
  rfl

/-- The lines of a trimmed program are those of the program. -/
theorem programLines_trimmedProgram (sample : Sample) :
    programLines sample.trimmedProgram = sample.sourceLines := by
  unfold programLines
  rw [toList_trimmedProgram, ← partText_sourceLines]
  exact lines_partText fun _ => clean_of_mem

theorem partProgram_sourceLines (sample : Sample) :
    partProgram sample.sourceLines = sample.trimmedProgram := by
  unfold partProgram
  rw [partText_sourceLines, trim_program]

theorem isBlankPart_sourceLines (sample : Sample) :
    isBlankPart sample.sourceLines = false := by
  rw [← isBlankBlock_eq]
  rfl

end Sample

/-! ## The round trip -/

/-- Samples are read back in order from the file that was written for them. -/
theorem readCorpus_samples (seed : Int64) (count : UInt64) (samples : List Sample) :
    readCorpus (corpusText seed count.toNat (samples.map Sample.trimmedProgram)) =
      .ok ⟨⟨seed, count⟩, samples.map Sample.trimmedProgram⟩ := by
  have hlines : ∀ sample : Sample,
      programLines sample.trimmedProgram = sample.sourceLines :=
    Sample.programLines_trimmedProgram
  rw [readCorpus_corpusText]
  · rw [List.map_map]
    simp [Function.comp_def, hlines, Sample.partProgram_sourceLines]
  · simp [hlines, Sample.isBlankPart_sourceLines]
  · intro program hprogram line hline
    obtain ⟨sample, -, rfl⟩ := List.mem_map.1 hprogram
    rw [hlines] at hline
    exact Sample.isSeparator_of_mem hline

theorem Corpus.checkCount_eq_ok_iff {corpus : Corpus} :
    corpus.checkCount = .ok () ↔ corpus.programs.length = corpus.header.count.toNat := by
  unfold Corpus.checkCount
  by_cases hlength : corpus.programs.length = corpus.header.count.toNat
  · simp [hlength]
  · simp [hlength]

theorem Corpus.checkCount_of_ne {corpus : Corpus}
    (h : corpus.programs.length ≠ corpus.header.count.toNat) :
    corpus.checkCount = .error (.wrongCount corpus.header.count corpus.programs.length) :=
  if_neg h

/-- Writing samples and reading the text gives back the header and, in order, every program
without the white space at its end.  The check passes exactly when the count is right. -/
theorem readCorpus_writeCorpus (seed : Int64) (count : UInt32) (samples : List Sample) :
    ∃ corpus : Corpus, readCorpus (writeCorpus seed count samples) = .ok corpus ∧
      corpus.header = ⟨seed, count.toUInt64⟩ ∧
      corpus.programs =
        samples.map (fun sample => String.ofList (trimEnd sample.program.toList)) ∧
      (corpus.checkCount = .ok () ↔ samples.length = count.toNat) ∧
      (samples.length ≠ count.toNat →
        corpus.checkCount = .error (.wrongCount count.toUInt64 samples.length)) := by
  have hcount : count.toUInt64.toNat = count.toNat := UInt32.toNat_toUInt64 count
  have hread := readCorpus_samples seed count.toUInt64 samples
  rw [hcount] at hread
  refine ⟨_, hread, rfl, rfl, ?_, ?_⟩
  · rw [Corpus.checkCount_eq_ok_iff, List.length_map, hcount]
  · intro hne
    rw [Corpus.checkCount_of_ne, List.length_map]
    rw [List.length_map, hcount]
    exact hne

end SampleForge
