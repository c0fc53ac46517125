import SampleForge.Proofs.Corpus.Acceptance
import SampleForge.Proofs.Corpus.RoundTrip

/-!
# Files that were cut off

A file that was cut off somewhere has whole lines up to the cut and, behind them, the beginning of one
more: `CutOff`.  What the cut does depends on where it falls.

* In front of the line feed of the count line no program is left, and the count that is left is not zero:
  the digits that remain of a positive number denote a positive number.
* Behind it the whole count is there, and fewer programs: what remains of a line of a program is never a
  separator, so the parts that are left hold as many texts as samples are left whole or in part, and the last
  sample is not among them.

One kind of cut is different.  Inside the first separator line it leaves one or two hyphens, which are read
as a program.  If one sample was written, that is the declared number.  `truncated_verifies_iff` says that no
other cut in front of the last program goes unnoticed.
-/

namespace SampleForge

open Text

/-- The text is a corpus with as many programs as it declares. -/
def Verifies (text : String) : Prop :=
  ∃ corpus : Corpus, readCorpus text = .ok corpus ∧ corpus.checkCount = .ok ()

/-! ## Cutting off -/

/-- A text that begins like a list of lines and is cut off somewhere, and the lines that it has. -/
inductive CutOff : List Line → List Char → List Line → Prop
  | here (rest : List Line) : CutOff rest [] []
  | inside {line start : Line} (rest : List Line) (nonempty : start ≠ []) (cut : start <+: line) :
      CutOff (line :: rest) start [start]
  | later (line : Line) {rest : List Line} {cs : List Char} {left : List Line}
      (cut : CutOff rest cs left) : CutOff (line :: rest) (line ++ '\n' :: cs) (line :: left)

theorem CutOff.of_beginning {line start : Line} (rest : List Line) (hline : Clean line)
    (hstart : start <+: line) : CutOff (line :: rest) start (lines start) := by
  by_cases hne : start = []
  · rw [hne]
    exact .here _
  · have hfeed : '\n' ∉ start := fun hmem => hline.1 (hstart.mem hmem)
    rw [lines_of_not_mem hfeed hne]
    exact .inside rest hne hstart

/-- A text that begins like the text of some lines is cut off in one of them. -/
theorem cutOff_of_beginning {whole : List Line} {cs : List Char} (hwhole : ∀ line ∈ whole, Clean line)
    (hbegin : cs <+: partText whole) : CutOff whole cs (lines cs) := by
  induction whole generalizing cs with
  | nil =>
      rw [List.prefix_nil.1 hbegin]
      exact .here []
  | cons line rest ih =>
      have hline := hwhole line List.mem_cons_self
      obtain ⟨tail, htail⟩ := hbegin
      rw [partText_cons, List.append_eq_append_iff] at htail
      rcases htail with ⟨more, hmore, -⟩ | ⟨more, rfl, hmore⟩
      · exact .of_beginning rest hline ⟨more, hmore.symm⟩
      · cases more with
        | nil => simpa using CutOff.of_beginning rest hline (List.prefix_refl line)
        | cons c more =>
            -- The line is whole, and its line feed is there.
            obtain ⟨rfl, hrest⟩ := List.cons_eq_cons.1 hmore
            rw [lines_append_feed_of_clean hline]
            exact .later line (ih (fun other hother => hwhole other (List.mem_cons_of_mem line hother))
              ⟨tail, hrest.symm⟩)

/-- The cut falls in one of the first lines or behind all of them. -/
theorem CutOff.append_cases {part rest : List Line} {cs : List Char} {left : List Line}
    (h : CutOff (part ++ rest) cs left) :
    (∀ line ∈ left, ∃ whole ∈ part, line <+: whole ∧ (whole ≠ [] → line ≠ [])) ∨
      ∃ cs' left', cs = partText part ++ cs' ∧ left = part ++ left' ∧ CutOff rest cs' left' := by
  induction part generalizing cs left with
  | nil => exact .inr ⟨cs, left, rfl, rfl, h⟩
  | cons whole part ih =>
      have hwhole : whole ∈ whole :: part := List.mem_cons_self
      cases h with
      | here => exact .inl (List.forall_mem_nil _)
      | inside _ hne hstart =>
          exact .inl (List.forall_mem_singleton.2 ⟨whole, hwhole, hstart, fun _ => hne⟩)
      | later _ hcut =>
          rcases ih hcut with hpart | ⟨cs', left', rfl, rfl, hrest⟩
          · refine .inl (List.forall_mem_cons.2 ⟨⟨whole, hwhole, List.prefix_refl whole, id⟩, ?_⟩)
            intro line hline
            obtain ⟨other, hother, hline⟩ := hpart line hline
            exact ⟨other, List.mem_cons_of_mem whole hother, hline⟩
          · exact .inr ⟨cs', left', by simp, rfl, hrest⟩

/-! ## Cuts in the header -/

section Header

variable {key : HeaderKey} {value : List Char} {line : Line}

theorem headerLine_eq_cons (key : HeaderKey) (value : List Char) :
    ∃ rest, headerLine key value = '#' :: rest := by
  cases key <;> exact ⟨_, rfl⟩

theorem head?_of_beginning (hne : line ≠ []) (hbegin : line <+: headerLine key value) :
    line.head? = some '#' := by
  obtain ⟨rest, hrest⟩ := headerLine_eq_cons key value
  obtain ⟨c, line, rfl⟩ := List.exists_cons_of_ne_nil hne
  rw [hrest, List.cons_prefix_cons] at hbegin
  rw [hbegin.1]
  rfl

/-- What is left of a header line belongs to a header. -/
theorem isHashLine_of_beginning (hne : line ≠ []) (hbegin : line <+: headerLine key value) :
    isHashLine line = true := by
  have hhead := head?_of_beginning hne hbegin
  have hstart : trimStart line = line := by
    refine trimStart_eq_self fun c hc => ?_
    obtain rfl : '#' = c := Option.some.inj (hhead.symm.trans hc)
    decide
  rw [isHashLine, head?_trim, hstart, hhead]
  rfl

/-- What is left of a header line carries no other key, and only what is left of the value. -/
theorem Carries.of_beginning {key' : HeaderKey} {value' : List Char} (h : Carries key value line)
    (hbegin : line <+: headerLine key' value') : key = key' ∧ value <+: value' := by
  have hne : line ≠ [] := by
    rintro rfl
    cases key <;> contradiction
  have hhead := head?_of_beginning hne hbegin
  obtain ⟨before, after, hbefore, -, hline⟩ := exists_blank_around_trim line
  obtain rfl : before = [] := by
    cases before with
    | nil => rfl
    | cons c before =>
        rw [hline] at hhead
        obtain rfl : c = '#' := Option.some.inj hhead
        exact absurd (allBlank_iff.1 hbefore '#' List.mem_cons_self) (by decide)
  obtain ⟨tail, htail⟩ := hbegin
  rw [hline, h, List.nil_append, List.append_assoc, List.append_assoc] at htail
  cases key <;> cases key' <;>
    simp [HeaderKey.opening, HeaderKey.name, headerLine] at htail ⊢
  · exact ⟨_, htail⟩
  · exact ⟨_, htail⟩

end Header

/-- The two lines of a written header. -/
def writtenHeader (seed : Int64) (count : Nat) : List Line :=
  [headerLine .seed (integerDigits seed.toInt), headerLine .count (digits count)]

/-- The lines are what is left of lines of a written header. -/
def HeaderRests (seed : Int64) (count : Nat) (header : List Line) : Prop :=
  ∀ line ∈ header, ∃ whole ∈ writtenHeader seed count, line <+: whole ∧ (whole ≠ [] → line ≠ [])

section HeaderRests

variable {seed : Int64} {count : Nat} {header : List Line}

theorem HeaderRests.headerRun (h : HeaderRests seed count header) : HeaderRun header [] := by
  refine ⟨fun line hline => ?_, by simp⟩
  obtain ⟨whole, hwhole, hbegin, hne⟩ := h line hline
  obtain ⟨key, value, rfl⟩ : ∃ key value, whole = headerLine key value := by
    simp only [writtenHeader, List.mem_cons, List.not_mem_nil, or_false] at hwhole
    rcases hwhole with rfl | rfl
    · exact ⟨_, _, rfl⟩
    · exact ⟨_, _, rfl⟩
  obtain ⟨rest, hrest⟩ := headerLine_eq_cons key value
  exact isHashLine_of_beginning (hne (by rw [hrest]; exact List.cons_ne_nil '#' rest)) hbegin

/-- A count that has lost digits is not zero. -/
theorem HeaderRests.count_pos (h : HeaderRests seed count header) (hcount : 0 < count)
    {provenance : Provenance} (hreading : HeaderReading header (.ok provenance)) :
    0 < provenance.count.toNat := by
  obtain ⟨-, countText, -, hfirst, -, hnumeral⟩ := headerReading_ok_iff.1 hreading
  obtain ⟨line, hline, hvalue⟩ := List.mem_filterMap.1 (List.mem_of_mem_head? hfirst)
  have hcarries : Carries .count countText line := headerValue?_eq_some_iff.1 hvalue
  obtain ⟨whole, hwhole, hbegin, -⟩ := h line hline
  simp only [writtenHeader, List.mem_cons, List.not_mem_nil, or_false] at hwhole
  rcases hwhole with rfl | rfl
  · exact absurd (hcarries.of_beginning hbegin).1 (by decide)
  · exact hnumeral.pos_of_beginning (hcarries.of_beginning hbegin).2 hcount

end HeaderRests

/-! ## Cuts in the body -/

/-- The texts of the parts that have one. -/
def filledTexts (body : List Line) : List (List Char) :=
  (partTexts body).filter fun text => !text.isEmpty

theorem filledTexts_append_cons {separator : Line} (hseparator : isSeparator separator = true)
    (before after : List Line) :
    filledTexts (before ++ separator :: after) = filledTexts before ++ filledTexts after := by
  rw [filledTexts, partTexts_append_cons hseparator, List.filter_append]
  rfl

/-- Without a separator there is one text at most. -/
theorem length_filledTexts_le_one {body : List Line}
    (hbody : ∀ line ∈ body, isSeparator line = false) : (filledTexts body).length ≤ 1 := by
  have htexts : partTexts body = [trim (partText body)] := by
    rw [partTexts, List.splitOnP_eq_singleton hbody]
    rfl
  rw [filledTexts, htexts]
  exact List.length_filter_le _ _

/-- What is left of a separator line is no separator, unless the line is whole. -/
theorem eq_separatorLine_of_beginning {start : Line}
    (hbegin : start <+: separatorLine.toList) (hstart : isSeparator start = true) :
    start = separatorLine.toList := by
  obtain ⟨before, after, -, -, hline⟩ := exists_blank_around_trim start
  have htrim : trim start = separatorLine.toList := of_decide_eq_true hstart
  have hlength := congrArg List.length hline
  rw [htrim, List.length_append, List.length_append] at hlength
  exact hbegin.eq_of_length_le (by omega)

/-- What is left of a line that has `c` behind blanks is blank or has `c` too. -/
theorem isSeparator_eq_false_of_beginning (blanks : Line) {rest start : Line} {c : Char}
    (hblanks : allBlank blanks = true) (hblank : isBlank c = false) (hhyphen : c ≠ '-')
    (hbegin : start <+: blanks ++ c :: rest) : isSeparator start = false := by
  obtain ⟨tail, htail⟩ := hbegin
  rcases List.append_eq_append_iff.1 htail with ⟨more, rfl, -⟩ | ⟨more, rfl, hmore⟩
  · rw [allBlank_append, Bool.and_eq_true] at hblanks
    exact isSeparator_of_allBlank hblanks.1
  · cases more with
    | nil => exact isSeparator_of_allBlank (by simpa using hblanks)
    | cons d more =>
        obtain ⟨rfl, -⟩ := List.cons_eq_cons.1 hmore
        exact isSeparator_eq_false (c := c) (by simp) hblank hhyphen

/-- What is left of a line of a program is no separator. -/
theorem Sample.isSeparator_of_beginning {sample : Sample} {line start : Line}
    (hline : line ∈ sample.sourceLines) (hbegin : start <+: line) : isSeparator start = false := by
  simp only [sourceLines, List.mem_cons, List.not_mem_nil, or_false] at hline
  rcases hline with rfl | rfl | rfl
  · exact isSeparator_eq_false_of_beginning [] (c := 'f') rfl (by decide) (by decide) hbegin
  · exact isSeparator_eq_false_of_beginning [' ', ' '] (c := 'r') (by decide) (by decide) (by decide)
      hbegin
  · exact isSeparator_eq_false_of_beginning [] (c := '\x7d') rfl (by decide) (by decide) hbegin

/-- A cut in front of a separator leaves one text at most, and behind it the rest is cut. -/
theorem CutOff.append_separator {part rest : List Line} {cs : List Char} {left : List Line}
    (h : CutOff (part ++ separatorLine.toList :: rest) cs left)
    (hpart : ∀ line ∈ part, ∀ start, start <+: line → isSeparator start = false) :
    (filledTexts left).length ≤ 1 ∨
      ∃ cs' left', left = part ++ separatorLine.toList :: left' ∧ CutOff rest cs' left' := by
  have hwhole : ∀ line ∈ part, isSeparator line = false := fun line hline =>
    hpart line hline line (List.prefix_refl line)
  rcases h.append_cases with hleft | ⟨cs', left', -, rfl, hcut⟩
  · refine .inl (length_filledTexts_le_one fun line hline => ?_)
    obtain ⟨whole, hmem, hbegin, -⟩ := hleft line hline
    exact hpart whole hmem line hbegin
  · cases hcut with
    | here =>
        rw [List.append_nil]
        exact .inl (length_filledTexts_le_one hwhole)
    | inside _ _ hstart =>
        by_cases hseparator : isSeparator cs' = true
        · rw [eq_separatorLine_of_beginning hstart hseparator]
          exact .inr ⟨[], [], rfl, .here rest⟩
        · refine .inl (length_filledTexts_le_one (List.forall_mem_append.2 ⟨hwhole, ?_⟩))
          exact List.forall_mem_singleton.2 (Bool.eq_false_of_not_eq_true hseparator)
    | later _ hcut => exact .inr ⟨_, _, rfl, hcut⟩

/-- The lines of samples with a separator line behind each. -/
def separatedLines (samples : List Sample) : List Line :=
  samples.flatMap fun sample => sample.sourceLines ++ [separatorLine.toList]

/-- Every text that is left is one of a sample. -/
theorem length_filledTexts_le {samples : List Sample} {cs : List Char} {left : List Line}
    (h : CutOff (separatedLines samples) cs left) : (filledTexts left).length ≤ samples.length := by
  induction samples generalizing cs left with
  | nil =>
      cases h with
      | here => decide
  | cons sample samples ih =>
      rw [separatedLines, List.flatMap_cons, List.append_assoc] at h
      have hsource : ∀ line ∈ sample.sourceLines, ∀ start, start <+: line →
          isSeparator start = false := fun line hline start hstart =>
        Sample.isSeparator_of_beginning hline hstart
      rcases CutOff.append_separator h hsource with hone | ⟨cs', left', rfl, hrest⟩
      · rw [List.length_cons]
        omega
      · have hone : (filledTexts sample.sourceLines).length ≤ 1 :=
          length_filledTexts_le_one fun _ hline => Sample.isSeparator_of_mem hline
        have hothers := ih hrest
        rw [filledTexts_append_cons isSeparator_separatorLine, List.length_append, List.length_cons]
        omega

/-! ## The file up to its last program -/

theorem partText_append (part part' : Block) :
    partText (part ++ part') = partText part ++ partText part' :=
  List.flatMap_append

/-- The lines up to the last program. -/
def linesToLast (seed : Int64) (count : Nat) (samples : List Sample) : List Line :=
  titleLine.toList ::
    (writtenHeader seed count ++ [] :: separatorLine.toList :: separatedLines samples)

theorem bodyText_concat (samples : List Sample) (last : Sample) :
    bodyText ((samples ++ [last]).map Sample.trimmedProgram) =
      partText (separatedLines samples) ++ (last.trimmedProgram.toList ++ ['\n']) := by
  induction samples with
  | nil => simp [bodyText, separatedLines]
  | cons sample samples ih =>
      obtain ⟨next, programs, hprograms⟩ : ∃ next programs,
          (samples ++ [last]).map Sample.trimmedProgram = next :: programs :=
        List.exists_cons_of_ne_nil (by simp)
      have hsample : sample.trimmedProgram.toList ++ ['\n'] = partText sample.sourceLines := by
        rw [Sample.toList_trimmedProgram, Sample.partText_sourceLines]
      rw [List.cons_append, List.map_cons, hprograms, bodyText_cons_cons, ← hprograms, ih,
        ← List.singleton_append, ← List.append_assoc, hsample]
      simp [separatedLines, partText_append]

theorem toList_writeCorpus_concat (seed : Int64) (count : UInt32) (samples : List Sample)
    (last : Sample) :
    (writeCorpus seed count (samples ++ [last])).toList =
      partText (linesToLast seed count.toNat samples) ++ (last.trimmedProgram.toList ++ ['\n']) := by
  rw [writeCorpus, toList_corpusText, bodyText_concat]
  simp [linesToLast, writtenHeader]

theorem clean_of_mem_writtenHeader {seed : Int64} {count : Nat} {line : Line}
    (hline : line ∈ writtenHeader seed count) : Clean line := by
  have hopening : ∀ key : HeaderKey, Clean key.opening := by
    intro key
    cases key <;> decide
  simp only [writtenHeader, List.mem_cons, List.not_mem_nil, or_false] at hline
  rcases hline with rfl | rfl
  · exact (hopening .seed).append (numeralText_integerDigits seed.toInt).clean
  · exact (hopening .count).append (numeralText_digits count).clean

theorem clean_of_mem_linesToLast {seed : Int64} {count : Nat} {samples : List Sample} {line : Line}
    (hline : line ∈ linesToLast seed count samples) : Clean line := by
  have htitle : Clean titleLine.toList := by decide
  have hempty : Clean [] := by decide
  have hseparator : Clean separatorLine.toList := by decide
  simp only [linesToLast, separatedLines, List.mem_append, List.mem_cons, List.mem_flatMap,
    List.not_mem_nil, or_false] at hline
  rcases hline with rfl | hline | rfl | rfl | ⟨sample, -, hline | rfl⟩
  · exact htitle
  · exact clean_of_mem_writtenHeader hline
  · exact hempty
  · exact hseparator
  · exact Sample.clean_of_mem hline
  · exact hseparator

/-! ## What the lines that are left amount to -/

/-- What a cut inside a separator line leaves. -/
def brokenSeparators : List Line :=
  [['-'], ['-', '-']]

theorem broken_or_whole {start : Line} (hne : start ≠ [])
    (hbegin : start <+: separatorLine.toList) :
    start ∈ brokenSeparators ∨ start = separatorLine.toList := by
  have hseparator : separatorLine.toList = ['-', '-', '-'] := by decide
  rw [hseparator] at hbegin ⊢
  simp only [List.prefix_cons_iff, List.prefix_nil] at hbegin
  obtain rfl | ⟨_, rfl, rfl | ⟨_, rfl, rfl | ⟨_, rfl, rfl⟩⟩⟩ := hbegin
  · contradiction
  · decide
  · decide
  · decide

/-- Only what is left of the first separator is a text that belongs to no sample. -/
theorem CutOff.length_filledTexts_le_or_broken {samples : List Sample} {cs : List Char}
    {left : List Line}
    (h : CutOff ([] :: separatorLine.toList :: separatedLines samples) cs left) :
    (filledTexts left).length ≤ samples.length ∨
      ∃ dashes ∈ brokenSeparators, cs = '\n' :: dashes ∧ left = [[], dashes] := by
  have hnone : filledTexts [] = [] := by decide
  have hblank : filledTexts [[]] = [] := by decide
  have hwhole : ∀ left' : List Line,
      filledTexts ([] :: separatorLine.toList :: left') = filledTexts left' := by
    intro left'
    rw [← List.singleton_append, filledTexts_append_cons isSeparator_separatorLine, hblank]
    rfl
  cases h with
  | here => exact .inl (Nat.zero_le _)
  | inside _ hne hstart => exact absurd (List.prefix_nil.1 hstart) hne
  | later _ hcut =>
      cases hcut with
      | here => exact .inl (by simp [hblank])
      | inside _ hne hstart =>
          rcases broken_or_whole hne hstart with hbroken | rfl
          · exact .inr ⟨_, hbroken, rfl, rfl⟩
          · exact .inl (by simp [hwhole, hnone])
      | later _ hcut =>
          rw [hwhole]
          exact .inl (length_filledTexts_le hcut)

/-- The lines are those of a corpus with as many programs as it declares. -/
def VerifiesLines (lines : List Line) : Prop :=
  ∃ corpus : Corpus, readCorpusLines lines = .ok corpus ∧ corpus.checkCount = .ok ()

/-- Without anything behind the header there are no programs, and a count that is not zero. -/
theorem HeaderRests.not_verifiesLines {seed : Int64} {count : Nat} {header : List Line}
    (h : HeaderRests seed count header) (hcount : 0 < count) (title : Line) :
    ¬ VerifiesLines (title :: header) := by
  rintro ⟨corpus, hread, hcheck⟩
  rw [← List.append_nil header, readCorpusLines_ok_iff h.headerRun] at hread
  obtain ⟨-, hheader, hprograms⟩ := hread
  have hnone : corpus.programs = [] := (programsReading_ok_iff.1 hprograms).2
  have hdeclared := h.count_pos hcount hheader
  rw [Corpus.checkCount_eq_ok_iff, hnone] at hcheck
  exact hdeclared.ne hcheck

/-- The blank line behind a written header does not belong to it. -/
theorem isHashLine_head_of_blank (rest : List Line) :
    ∀ line ∈ (([] : Line) :: rest).head?, isHashLine line = false := by
  intro line hline
  obtain rfl : [] = line := Option.some.inj hline
  decide

section File

variable (seed : Int64) (count : UInt32)

/-- Behind a whole header the texts are counted. -/
theorem verifiesLines_iff {rest : List Line} (hrest : ∀ line ∈ rest.head?, isHashLine line = false) :
    VerifiesLines (titleLine.toList :: (writtenHeader seed count.toNat ++ rest)) ↔
      (∀ text ∈ (partTexts rest).tail.dropLast, text ≠ []) ∧
        (filledTexts rest).length = count.toNat := by
  have hcount : count.toUInt64.toNat = count.toNat := UInt32.toNat_toUInt64 count
  have hwritten : HeaderReading (writtenHeader seed count.toNat) (.ok ⟨seed, count.toUInt64⟩) := by
    rw [← hcount]
    exact headerReading_written seed count.toUInt64
  have hrun : HeaderRun (writtenHeader seed count.toNat) rest := by
    refine ⟨?_, hrest⟩
    simp [writtenHeader, isHashLine_headerLine, numeralText_integerDigits, numeralText_digits]
  have htitle : trim titleLine.toList = titleLine.toList := by decide
  simp only [VerifiesLines, readCorpusLines_ok_iff hrun, programsReading_ok_iff,
    Corpus.checkCount_eq_ok_iff]
  constructor
  · rintro ⟨⟨header, programs⟩, ⟨-, hheader, hmiddle, hprograms⟩, hlength⟩
    obtain rfl : ⟨seed, count.toUInt64⟩ = header := Except.ok.inj (hwritten.unique hheader)
    rw [hprograms, List.length_map, hcount] at hlength
    exact ⟨hmiddle, hlength⟩
  · rintro ⟨hmiddle, hlength⟩
    refine ⟨⟨⟨seed, count.toUInt64⟩, _⟩, ⟨htitle, hwritten, hmiddle, rfl⟩, ?_⟩
    rw [List.length_map, hcount]
    exact hlength

variable {seed count} {samples : List Sample} {cs : List Char} {left : List Line}

/-- The text up to the first separator line. -/
def openingText (seed : Int64) (count : UInt32) : List Char :=
  partText (titleLine.toList :: (writtenHeader seed count.toNat ++ [[]]))

/-- What is left of a file without its last program passes only as a broken separator. -/
theorem CutOff.broken_of_verifiesLines (h : CutOff (linesToLast seed count.toNat samples) cs left)
    (hcount : samples.length + 1 = count.toNat) (hverifies : VerifiesLines left) :
    samples = [] ∧ ∃ dashes ∈ brokenSeparators, cs = openingText seed count ++ dashes := by
  have hpos : 0 < count.toNat := by omega
  have hnone : HeaderRests seed count.toNat [] := List.forall_mem_nil _
  cases h with
  | here =>
      obtain ⟨corpus, hread, -⟩ := hverifies
      exact absurd hread (readCorpusLines_nil_ne_ok corpus)
  | inside => exact absurd hverifies (hnone.not_verifiesLines hpos _)
  | later _ hcut =>
      rcases hcut.append_cases with hrests | ⟨cs', rest, rfl, rfl, hbody⟩
      · exact absurd hverifies (HeaderRests.not_verifiesLines hrests hpos _)
      · have hrest : ∀ line ∈ rest.head?, isHashLine line = false := by
          cases hbody with
          | here => simp
          | inside _ hne hstart => exact absurd (List.prefix_nil.1 hstart) hne
          | later => exact isHashLine_head_of_blank _
        obtain ⟨-, hlength⟩ := (verifiesLines_iff seed count hrest).1 hverifies
        rcases hbody.length_filledTexts_le_or_broken with hle | ⟨dashes, hdashes, rfl, rfl⟩
        · omega
        · have hone : ∀ dashes ∈ brokenSeparators, (filledTexts [[], dashes]).length = 1 := by decide
          rw [hone dashes hdashes] at hlength
          refine ⟨List.length_eq_zero_iff.1 (by omega), dashes, hdashes, ?_⟩
          simp [openingText, partText_append]

theorem lines_openingText_append (cs : List Char) :
    lines (openingText seed count ++ cs) =
      titleLine.toList :: (writtenHeader seed count.toNat ++ [] :: lines cs) := by
  have htext : openingText seed count ++ cs =
      titleLine.toList ++ '\n' :: (headerLine .seed (integerDigits seed.toInt) ++ '\n' ::
        (headerLine .count (digits count.toNat) ++ '\n' :: '\n' :: cs)) := by
    simp [openingText, writtenHeader]
  rw [htext, lines_append_feed_of_clean (by decide),
    lines_headerLine_append (numeralText_integerDigits seed.toInt),
    lines_headerLine_append (numeralText_digits count.toNat), lines_cons_feed]
  rfl

/-- A broken separator is the one program that a count of one declares. -/
theorem verifiesLines_of_broken (hcount : count.toNat = 1) {dashes : Line}
    (hdashes : dashes ∈ brokenSeparators) :
    VerifiesLines (lines (openingText seed count ++ dashes)) := by
  have hline : ∀ dashes ∈ brokenSeparators, lines dashes = [dashes] := by decide
  have hmiddle : ∀ dashes ∈ brokenSeparators, (partTexts [[], dashes]).tail.dropLast = [] := by
    decide
  have hone : ∀ dashes ∈ brokenSeparators, (filledTexts [[], dashes]).length = 1 := by decide
  rw [lines_openingText_append, hline dashes hdashes]
  refine (verifiesLines_iff seed count (isHashLine_head_of_blank _)).2 ⟨?_, ?_⟩
  · rw [hmiddle dashes hdashes]
    exact List.forall_mem_nil _
  · exact (hone dashes hdashes).trans hcount.symm

/-- In front of a single program there is the first separator line. -/
theorem eq_append_ending_iff {text ending : String} {dashes : List Char}
    (hending : separatorLine.toList ++ ['\n'] = dashes ++ ending.toList) :
    String.ofList (partText (linesToLast seed count.toNat [])) = text ++ ending ↔
      text.toList = openingText seed count ++ dashes := by
  have hfront : partText (linesToLast seed count.toNat []) =
      openingText seed count ++ dashes ++ ending.toList := by
    rw [List.append_assoc, ← hending]
    simp [linesToLast, openingText, separatedLines, partText_append]
  rw [← String.toList_inj, String.toList_ofList, String.toList_append, hfront,
    List.append_cancel_right_eq, eq_comm]

end File

/-- Of all texts that are left when a file is cut off in front of its last program, those only pass
for a whole corpus that end behind the first or the second hyphen of the separator line in front of a
single program. -/
theorem truncated_verifies_iff (seed : Int64) (count : UInt32) (samples : List Sample)
    (last : Sample) (hcount : (samples ++ [last]).length = count.toNat) :
    ∃ front : String,
      writeCorpus seed count (samples ++ [last]) = front ++ last.trimmedProgram ++ "\n" ∧
        ∀ text : String, text.toList <+: front.toList →
          (Verifies text ↔ samples = [] ∧ (front = text ++ "--\n" ∨ front = text ++ "-\n")) := by
  have hlength : samples.length + 1 = count.toNat := by simpa using hcount
  refine ⟨String.ofList (partText (linesToLast seed count.toNat samples)), ?_, ?_⟩
  · refine String.toList_inj.1 ?_
    rw [toList_writeCorpus_concat]
    simp
  · intro text hbegin
    rw [String.toList_ofList] at hbegin
    have hcut := cutOff_of_beginning (fun _ => clean_of_mem_linesToLast) hbegin
    have hone : separatorLine.toList ++ ['\n'] = ['-'] ++ "--\n".toList := by decide
    have htwo : separatorLine.toList ++ ['\n'] = ['-', '-'] ++ "-\n".toList := by decide
    constructor
    · intro hverifies
      obtain ⟨rfl, dashes, hdashes, htext⟩ := hcut.broken_of_verifiesLines hlength hverifies
      refine ⟨rfl, ?_⟩
      simp only [brokenSeparators, List.mem_cons, List.not_mem_nil, or_false] at hdashes
      rcases hdashes with rfl | rfl
      · exact .inl ((eq_append_ending_iff hone).2 htext)
      · exact .inr ((eq_append_ending_iff htwo).2 htext)
    · rintro ⟨rfl, hfront⟩
      have htext : ∃ dashes ∈ brokenSeparators, text.toList = openingText seed count ++ dashes := by
        rcases hfront with hfront | hfront
        · exact ⟨['-'], by decide, (eq_append_ending_iff hone).1 hfront⟩
        · exact ⟨['-', '-'], by decide, (eq_append_ending_iff htwo).1 hfront⟩
      obtain ⟨dashes, hdashes, htext⟩ := htext
      have hverifies : VerifiesLines (lines (openingText seed count ++ dashes)) :=
        verifiesLines_of_broken hlength.symm hdashes
      rwa [← htext] at hverifies

/-- Behind the first of two programs a broken separator belongs to that program, and the second
program is missed. -/
theorem not_verifies_behind_first_of_two :
    let text := titleLine ++ "\n# seed=5\n# count=2\n\n---\nfn main() -> Int \x7b\n  return 1;\n\x7d\n-"
    writeCorpus 5 2 [⟨1, .literal 1⟩, ⟨2, .literal 2⟩] =
        text ++ "--\n" ++ Sample.trimmedProgram ⟨2, .literal 2⟩ ++ "\n" ∧ ¬ Verifies text := by
  intro text
  have hwritten : writeCorpus 5 2 [⟨1, .literal 1⟩, ⟨2, .literal 2⟩] =
      text ++ "--\n" ++ Sample.trimmedProgram ⟨2, .literal 2⟩ ++ "\n" := by decide +kernel
  obtain ⟨front, hsame, hverifies⟩ :=
    truncated_verifies_iff 5 2 [⟨1, .literal 1⟩] ⟨2, .literal 2⟩ (by decide)
  have hfront : front = text ++ "--\n" :=
    (String.append_left_inj _).1 ((String.append_left_inj _).1 (hsame.symm.trans hwritten))
  have hbegin : text.toList <+: front.toList :=
    ⟨"--\n".toList, by rw [hfront, ← String.toList_append]⟩
  refine ⟨hwritten, fun h => ?_⟩
  exact absurd ((hverifies text hbegin).1 h).1 (by decide)

/-- A text that ends behind the first hyphen passes for the file of a single sample. -/
theorem verifies_broken_separator :
    let text := titleLine ++ "\n# seed=5\n# count=1\n\n-"
    writeCorpus 5 1 [⟨1, .literal 1⟩] =
        text ++ "--\n" ++ Sample.trimmedProgram ⟨1, .literal 1⟩ ++ "\n" ∧ Verifies text :=
  ⟨by decide +kernel, ⟨⟨5, 1⟩, ["-"]⟩, by decide +kernel, by decide⟩

end SampleForge
