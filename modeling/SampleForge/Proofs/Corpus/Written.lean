import SampleForge.Corpus.Writer
import SampleForge.Proofs.Corpus.Reading
import SampleForge.Proofs.Text.LineCutting

/-!
# Reading what was written

A written corpus file is five lines of its own followed by the body: the programs with separator
lines between them.  `lines_corpusText` gives the lines of the file, and `splitOnP_lines_bodyText`
says that splitting the body at the separators gives back the lines of every program.

The programs here are any texts.  What reading needs of them is that none is blank and none has a
line that looks like a separator; `readCorpus_corpusText` asks for nothing else.
-/

namespace SampleForge

open Text

/-- The line `# key=value`. -/
def headerLine (key : HeaderKey) (value : List Char) : Line :=
  key.opening ++ value

/-- The lines of a program, with a line feed after the last one. -/
def programLines (program : String) : List Line :=
  lines (program.toList ++ ['\n'])

/-- The programs with separator lines between them, and a line feed at the end. -/
def bodyText (programs : List String) : List Char :=
  List.intercalate ("\n" ++ separatorLine ++ "\n").toList (programs.map String.toList) ++ ['\n']

theorem lines_partText {part : Block} (hpart : ∀ line ∈ part, Clean line) :
    lines (partText part) = part := by
  induction part with
  | nil => rfl
  | cons line part ih =>
      rw [partText_cons, lines_append_feed_of_clean (hpart line List.mem_cons_self),
        ih (fun other hother => hpart other (List.mem_cons_of_mem line hother))]

/-! ## The header lines -/

/-- Digits and minus signs, at least one of them. -/
structure NumeralText (value : List Char) : Prop where
  ne_nil : value ≠ []
  chars : ∀ c ∈ value, c = '-' ∨ c.isDigit = true

theorem numeralText_integerDigits (i : Int) : NumeralText (integerDigits i) :=
  ⟨integerDigits_ne_nil i, fun _ => mem_integerDigits⟩

theorem numeralText_digits (n : Nat) : NumeralText (digits n) :=
  ⟨digits_ne_nil n, fun _ hc => Or.inr (isDigit_of_mem_digits hc)⟩

section HeaderLine

variable {key : HeaderKey} {value : List Char}

theorem NumeralText.isBlank_eq_false (h : NumeralText value) {c : Char} (hc : c ∈ value) :
    isBlank c = false := by
  rcases h.chars c hc with rfl | hdigit
  · decide
  · obtain ⟨hlow, hhigh⟩ := toNat_bounds_of_isDigit hdigit
    simp [isBlank, blankRanges]
    omega

theorem NumeralText.clean (h : NumeralText value) : Clean value := by
  refine clean_iff.2 fun c hc => ?_
  have hblank := h.isBlank_eq_false hc
  constructor <;> rintro rfl <;> contradiction

theorem trimmed_headerLine (h : NumeralText value) : Trimmed (headerLine key value) := by
  constructor
  · cases key <;> simp [headerLine, HeaderKey.opening] <;> decide
  · intro c hc
    rw [headerLine, List.getLast?_append_of_ne_nil _ h.ne_nil] at hc
    exact h.isBlank_eq_false (List.mem_of_mem_getLast? hc)

theorem carries_headerLine (h : NumeralText value) : Carries key value (headerLine key value) :=
  (trimmed_headerLine h).trim_eq

theorem isHashLine_headerLine (h : NumeralText value) :
    isHashLine (headerLine key value) = true := by
  rw [isHashLine, carries_headerLine h]
  cases key <;> rfl

theorem lines_headerLine_append (h : NumeralText value) (rest : List Char) :
    lines (headerLine key value ++ '\n' :: rest) = headerLine key value :: lines rest := by
  have hopening : Clean key.opening := by
    cases key <;> decide
  exact lines_append_feed_of_clean (hopening.append h.clean) rest

end HeaderLine

/-- The two written header lines give back their numbers. -/
theorem headerReading_written (seed : Int64) (count : UInt64) :
    HeaderReading [headerLine .seed (integerDigits seed.toInt),
      headerLine .count (digits count.toNat)] (.ok ⟨seed, count⟩) := by
  have hseed : Carries .seed (integerDigits seed.toInt)
      (headerLine .seed (integerDigits seed.toInt)) :=
    carries_headerLine (numeralText_integerDigits seed.toInt)
  have hcount : Carries .count (digits count.toNat) (headerLine .count (digits count.toNat)) :=
    carries_headerLine (numeralText_digits count.toNat)
  refine .values (firstCarrier_of_absent (List.forall_mem_nil _) hseed _)
    (signedNumeral_integerDigits seed.toInt)
    (firstCarrier_of_absent (List.forall_mem_singleton.2 ?_) hcount [])
    (.plain (decimalNumeral_digits count.toNat))
  -- The seed line comes first and does not carry the count.
  intro other hother
  exact absurd (hseed.unique hother).1 (by decide)

/-! ## The body -/

theorem bodyText_cons_cons (program next : String) (programs : List String) :
    bodyText (program :: next :: programs) =
      program.toList ++ '\n' :: (separatorLine.toList ++ '\n' :: bodyText (next :: programs)) := by
  simp [bodyText, List.intercalate_cons_cons]

theorem lines_separatorLine_append (rest : List Char) :
    lines (separatorLine.toList ++ '\n' :: rest) = separatorLine.toList :: lines rest :=
  lines_append_feed_of_clean (by decide) rest

theorem isSeparator_separatorLine : isSeparator separatorLine.toList = true := by decide

/-- The separators that were written are the only ones, and they stand between the programs. -/
theorem splitOnP_lines_bodyText {programs : List String} (hne : programs ≠ [])
    (hlines : ∀ program ∈ programs, ∀ line ∈ programLines program, isSeparator line = false) :
    (lines (bodyText programs)).splitOnP isSeparator = programs.map programLines := by
  induction programs with
  | nil => contradiction
  | cons program programs ih =>
      have hprogram := hlines program List.mem_cons_self
      cases programs with
      | nil =>
          have hbody : lines (bodyText [program]) = programLines program := by
            simp [bodyText, programLines]
          rw [hbody, List.splitOnP_eq_singleton hprogram]
          rfl
      | cons next programs =>
          -- The separator after this program is the first one, and the rest is a body again.
          have hrest := ih (List.cons_ne_nil next programs)
            (fun other hother => hlines other (List.mem_cons_of_mem program hother))
          rw [bodyText_cons_cons, lines_append_feed, lines_separatorLine_append, ← programLines,
            List.splitOnP_append_cons_of_forall_mem hprogram _ isSeparator_separatorLine, hrest]
          rfl

/-- Without a program the body is one empty line. -/
theorem lines_bodyText_nil : lines (bodyText []) = [[]] := by decide

/-- The blank line under the header makes a first part that is left out. -/
theorem keptParts_written {programs : List String}
    (hfilled : ∀ program ∈ programs, isBlankPart (programLines program) = false)
    (hlines : ∀ program ∈ programs, ∀ line ∈ programLines program, isSeparator line = false) :
    keptParts ([] :: separatorLine.toList :: lines (bodyText programs)) =
      programs.map programLines := by
  by_cases hne : programs = []
  · rw [hne, lines_bodyText_nil]
    decide
  · have hempty : ∀ line ∈ [([] : Line)], isSeparator line = false := by decide
    have hsplit : ([] :: separatorLine.toList :: lines (bodyText programs)).splitOnP isSeparator =
        [[]] :: programs.map programLines := by
      rw [← splitOnP_lines_bodyText hne hlines]
      exact List.splitOnP_append_cons_of_forall_mem hempty _ isSeparator_separatorLine _
    exact keptParts_of_blank_first hsplit (by decide) (by simpa using hne)
      (List.forall_mem_map.2 hfilled)

/-! ## The file -/

theorem toList_corpusText (seed : Int64) (count : Nat) (programs : List String) :
    (corpusText seed count programs).toList =
      titleLine.toList ++ '\n' :: (headerLine .seed (integerDigits seed.toInt) ++ '\n' ::
        (headerLine .count (digits count) ++ '\n' :: '\n' ::
          (separatorLine.toList ++ '\n' :: bodyText programs))) := by
  simp [corpusText, headerLine, HeaderKey.opening, bodyText, String.toList_intercalate]

theorem lines_corpusText (seed : Int64) (count : Nat) (programs : List String) :
    lines (corpusText seed count programs).toList =
      titleLine.toList :: headerLine .seed (integerDigits seed.toInt) ::
        headerLine .count (digits count) :: [] :: separatorLine.toList ::
          lines (bodyText programs) := by
  rw [toList_corpusText, lines_append_feed_of_clean (by decide),
    lines_headerLine_append (numeralText_integerDigits seed.toInt),
    lines_headerLine_append (numeralText_digits count), lines_cons_feed,
    lines_separatorLine_append]

/-- What was written is read back, every program from its lines. -/
theorem readCorpus_corpusText (seed : Int64) (count : UInt64) {programs : List String}
    (hfilled : ∀ program ∈ programs, isBlankPart (programLines program) = false)
    (hlines : ∀ program ∈ programs, ∀ line ∈ programLines program, isSeparator line = false) :
    readCorpus (corpusText seed count.toNat programs) =
      .ok ⟨⟨seed, count⟩, programs.map fun program => partProgram (programLines program)⟩ := by
  have hseed : isHashLine (headerLine .seed (integerDigits seed.toInt)) = true :=
    isHashLine_headerLine (numeralText_integerDigits seed.toInt)
  have hcount : isHashLine (headerLine .count (digits count.toNat)) = true :=
    isHashLine_headerLine (numeralText_digits count.toNat)
  have hempty : isHashLine [] = false := by decide
  have hparts := keptParts_written hfilled hlines
  rw [readCorpus, lines_corpusText]
  refine readCorpusLines_eq_iff.2 (.corpus (by decide) ?_ ?_)
  · simpa [hseed, hcount, hempty] using headerReading_written seed count
  · have hprograms : ProgramsReading (programs.map programLines)
        (.ok (programs.map fun program => partProgram (programLines program))) := by
      have hread := ProgramsReading.programs (List.forall_mem_map.2 hfilled)
      rw [List.map_map] at hread
      exact hread
    simpa [hseed, hcount, hempty, hparts] using hprograms

end SampleForge
