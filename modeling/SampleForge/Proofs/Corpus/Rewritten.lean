import Mathlib.Tactic
import SampleForge.Proofs.Corpus.Acceptance
import SampleForge.Proofs.Corpus.Written

/-!
# Writing what was read

Reading makes a program of every part that has text: the text of the part without white space around it.
Such a program is not empty, it is trimmed, and none of its lines is a separator, whatever the file looked
like.  This is all that writing needs.  A list of programs of this kind is read back from the file that is
written for it, except that a carriage return directly before a line feed is lost:
`readCorpus_corpusText_of_bodyPrograms`.

So an accepted file is as good as the file that is written for its result, and writing a second time changes
nothing but carriage returns, `readCorpus_ok_rewritten`.
-/

namespace SampleForge

open Text

/-- The text can be the program of a part. -/
structure BodyProgram (program : String) : Prop where
  ne_empty : program ≠ ""
  trimmed : Trimmed program.toList
  noSeparator : ∀ line ∈ lines program.toList, trim line ≠ separatorLine.toList

/-- The program with a line feed for every carriage return and line feed. -/
def feedEnded (program : String) : String :=
  String.ofList (withoutReturns program.toList)

/-! ## Programs that were read -/

theorem rawLines_partText {part : Block} (hpart : ∀ line ∈ part, '\n' ∉ line) :
    rawLines (partText part) = part ++ [[]] := by
  induction part with
  | nil => rfl
  | cons line part ih =>
      have hrest := ih fun other hother => hpart other (List.mem_cons_of_mem line hother)
      unfold rawLines at hrest ⊢
      rw [partText_cons, List.splitOn_append_cons_self_of_not_mem (hpart line List.mem_cons_self),
        hrest]
      rfl

/-- The lines of a program are those of its part, up to white space. -/
theorem bodyProgram_of_part {part : Block} (hfeed : ∀ line ∈ part, '\n' ∉ line)
    (hseparator : ∀ line ∈ part, isSeparator line = false)
    (htext : trim (partText part) ≠ []) : BodyProgram (partProgram part) := by
  have hchars : (partProgram part).toList = trim (partText part) := String.toList_ofList
  refine ⟨?_, ?_, ?_⟩
  · intro hempty
    rw [hempty] at hchars
    exact htext hchars.symm
  · rw [hchars]
    exact trimmed_trim _
  · intro line hline
    rw [hchars] at hline
    obtain ⟨inner, hinner, hsame⟩ := exists_rawLine_of_line hline
    obtain ⟨raw, hraw, hsame'⟩ := exists_rawLine_of_trim hinner
    rw [← hsame, ← hsame']
    rw [rawLines_partText hfeed] at hraw
    rcases List.mem_append.1 hraw with hraw | hraw
    · exact of_decide_eq_false (hseparator raw hraw)
    · rw [List.mem_singleton.1 hraw]
      decide

theorem feed_not_mem_withoutReturn {line : Line} (h : '\n' ∉ line) : '\n' ∉ withoutReturn line := by
  unfold withoutReturn
  split
  · exact fun hmem => h (List.mem_of_mem_dropLast hmem)
  · exact h

theorem bodyProgram_of_readCorpus {text : String} {corpus : Corpus}
    (h : readCorpus text = .ok corpus) {program : String} (hprogram : program ∈ corpus.programs) :
    BodyProgram program := by
  rw [readCorpus_ok_iff_rawLines] at h
  obtain ⟨title, header, body, hlines, hrun⟩ := exists_run_of_ok h
  have hfeed : ∀ line ∈ body, '\n' ∉ line := by
    intro line hline
    have hmem : line ∈ (rawLines text.toList).map withoutReturn := by
      rw [hlines]
      exact List.mem_cons_of_mem title (List.mem_append_right header hline)
    obtain ⟨raw, hraw, rfl⟩ := List.mem_map.1 hmem
    exact feed_not_mem_withoutReturn (feed_not_mem_rawLine hraw)
  rw [hlines, readCorpusLines_ok_iff hrun, programsReading_ok_iff] at h
  rw [h.2.2.2] at hprogram
  obtain ⟨chars, hchars, rfl⟩ := List.mem_map.1 hprogram
  obtain ⟨htext, hne⟩ := List.mem_filter.1 hchars
  obtain ⟨part, hpart, rfl⟩ := List.mem_map.1 htext
  refine bodyProgram_of_part ?_ ?_ (by simpa using hne)
  · exact fun line hline => hfeed line (mem_of_mem_splitOnP hpart hline).1
  · exact fun line hline => (mem_of_mem_splitOnP hpart hline).2

/-! ## Programs that are written -/

/-- The lines of a text, put together again, are the text without the carriage returns of its line ends. -/
theorem partText_lines_append_feed (cs : List Char) :
    partText (lines (cs ++ ['\n'])) = withoutReturns (cs ++ ['\n']) := by
  induction cs with
  | nil => rfl
  | cons c cs ih =>
      rw [List.cons_append]
      by_cases hfeed : c = '\n'
      · subst hfeed
        rw [lines_cons_feed, partText_cons, ih, withoutReturns_cons_of_not (by simp)]
        rfl
      by_cases hreturn : c = '\r' ∧ (cs ++ ['\n']).head? = some '\n'
      · -- The carriage return is lost on both sides.
        have hlost : withoutReturns (c :: (cs ++ ['\n'])) = withoutReturns (cs ++ ['\n']) :=
          if_pos hreturn
        obtain ⟨rfl, hhead⟩ := hreturn
        obtain ⟨rest, hrest⟩ := List.head?_eq_some_iff.1 hhead
        rw [hlost, ← ih, hrest, lines_cons_return_feed, lines_cons_feed]
      · rw [lines_cons_of_ne hfeed hreturn, withoutReturns_cons_of_not hreturn, ← ih]
        have hne : lines (cs ++ ['\n']) ≠ [] := by
          rw [lines_append_feed_eq_map]
          simp [rawLines]
        obtain ⟨first, rest, hlines⟩ := List.exists_cons_of_ne_nil hne
        rw [hlines, consLine, partText_cons, partText_cons]
        rfl

namespace BodyProgram

variable {program : String}

theorem toList_ne_nil (h : BodyProgram program) : program.toList ≠ [] :=
  fun hnil => h.ne_empty (String.toList_eq_nil_iff.1 hnil)

theorem partText_programLines (h : BodyProgram program) :
    partText (programLines program) = withoutReturns program.toList ++ ['\n'] := by
  have hseam : program.toList.getLast? = some '\r' → (['\n'] : List Char).head? ≠ some '\n' := by
    intro hlast
    exact absurd (h.trimmed.last '\r' hlast) (by decide)
  rw [programLines, partText_lines_append_feed, withoutReturns_append hseam]
  rfl

theorem trim_partText_programLines (h : BodyProgram program) :
    trim (partText (programLines program)) = withoutReturns program.toList := by
  have hfeed : allBlank ['\n'] = true := by decide
  rw [h.partText_programLines, trim_append_of_allBlank hfeed]
  exact h.trimmed.withoutReturns.trim_eq

theorem partProgram_programLines (h : BodyProgram program) :
    partProgram (programLines program) = feedEnded program := by
  rw [partProgram, h.trim_partText_programLines]
  rfl

theorem isBlankPart_programLines (h : BodyProgram program) :
    isBlankPart (programLines program) = false := by
  rw [isBlankPart, h.trim_partText_programLines, List.isEmpty_eq_false_iff]
  -- The first character is no carriage return, so it stays.
  obtain ⟨c, cs, hcs⟩ := List.exists_cons_of_ne_nil h.toList_ne_nil
  have hc : isBlank c = false := h.trimmed.first c (by rw [hcs]; rfl)
  rw [hcs, withoutReturns_cons_of_not]
  · exact List.cons_ne_nil _ _
  · rintro ⟨rfl, -⟩
    exact absurd hc (by decide)

/-- The line feed behind the program makes no separator. -/
theorem isSeparator_of_mem_programLines (h : BodyProgram program) {line : Line}
    (hline : line ∈ programLines program) : isSeparator line = false := by
  have hinside : ∀ other ∈ lines program.toList, isSeparator other = false := fun other hother =>
    decide_eq_false (h.noSeparator other hother)
  unfold programLines at hline
  rcases lines_append_feed_cases program.toList with hlines | ⟨before, last, hlines, hfeed⟩
  · rw [hlines] at hline
    rcases List.mem_append.1 hline with hline | hline
    · exact hinside line hline
    · rw [List.mem_singleton.1 hline]
      decide
  · rw [hlines] at hinside
    rw [hfeed] at hline
    rcases List.mem_append.1 hline with hline | hline
    · exact hinside line (List.mem_append_left _ hline)
    · rw [List.mem_singleton.1 hline, isSeparator_congr (trim_withoutReturn last)]
      exact hinside last (by simp)

end BodyProgram

/-- Programs that parts can have are read back from the file that is written for them. -/
theorem readCorpus_corpusText_of_bodyPrograms (seed : Int64) (count : UInt64)
    {programs : List String} (h : ∀ program ∈ programs, BodyProgram program) :
    readCorpus (corpusText seed count.toNat programs) =
      .ok ⟨⟨seed, count⟩, programs.map feedEnded⟩ := by
  rw [readCorpus_corpusText seed count
    (fun program hprogram => (h program hprogram).isBlankPart_programLines)
    (fun program hprogram _ => (h program hprogram).isSeparator_of_mem_programLines)]
  have hprograms : (programs.map fun program => partProgram (programLines program)) =
      programs.map feedEnded :=
    List.map_congr_left fun program hprogram => (h program hprogram).partProgram_programLines
  rw [hprograms]

theorem feedEnded_eq_self {program : String} (h : ¬ ['\r', '\n'] <:+: program.toList) :
    feedEnded program = program := by
  rw [feedEnded, withoutReturns_eq_self h, String.ofList_toList]

/-- The programs of an accepted file are not empty, they are trimmed, and no line of theirs is a separator.
The file that is written for them is accepted with the same header, and its programs are the same with a
carriage return deleted before each line feed; without such returns nothing changes. -/
theorem readCorpus_ok_rewritten {text : String} {corpus : Corpus} (h : readCorpus text = .ok corpus) :
    (∀ program ∈ corpus.programs, program ≠ "" ∧ Trimmed program.toList ∧
      ∀ line ∈ lines program.toList, trim line ≠ separatorLine.toList) ∧
    readCorpus (corpusText corpus.header.seed corpus.header.count.toNat corpus.programs) =
      .ok ⟨corpus.header, corpus.programs.map fun program =>
        String.ofList (withoutReturns program.toList)⟩ ∧
    ((∀ program ∈ corpus.programs, ¬ ['\r', '\n'] <:+: program.toList) →
      readCorpus (corpusText corpus.header.seed corpus.header.count.toNat corpus.programs) =
        .ok corpus) := by
  have hprograms : ∀ program ∈ corpus.programs, BodyProgram program :=
    fun _ => bodyProgram_of_readCorpus h
  have hread := readCorpus_corpusText_of_bodyPrograms corpus.header.seed corpus.header.count
    hprograms
  refine ⟨?_, hread, ?_⟩
  · intro program hprogram
    have hbody := hprograms program hprogram
    exact ⟨hbody.ne_empty, hbody.trimmed, hbody.noSeparator⟩
  · intro hclean
    have hsame : corpus.programs.map feedEnded = corpus.programs.map id :=
      List.map_congr_left fun program hprogram => feedEnded_eq_self (hclean program hprogram)
    rw [hread, hsame, List.map_id]

/-- Two carriage returns before a line feed are one after reading and none after reading again. -/
theorem readCorpus_ok_rewritten_returns :
    let text := titleLine ++ "\r\n# count=2\n # seed=-7\n#A\n\n ---\n\n# B\r\r\n  -- \n---\t\nC\n---\n"
    let corpus : Corpus := ⟨⟨-7, 2⟩, ["# B\r\n  --", "C"]⟩
    readCorpus text = .ok corpus ∧
    (∀ program ∈ corpus.programs, program ≠ "" ∧ Trimmed program.toList ∧
      ∀ line ∈ lines program.toList, trim line ≠ separatorLine.toList) ∧
    readCorpus (corpusText corpus.header.seed corpus.header.count.toNat corpus.programs) =
      .ok ⟨corpus.header, ["# B\n  --", "C"]⟩ := by
  intro text corpus
  have hread : readCorpus text = .ok corpus := by decide +kernel
  obtain ⟨hprograms, hagain, -⟩ := readCorpus_ok_rewritten hread
  exact ⟨hread, hprograms, hagain.trans (by decide +kernel)⟩

end SampleForge
