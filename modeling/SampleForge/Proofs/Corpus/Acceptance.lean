import Mathlib.Tactic
import SampleForge.Proofs.Corpus.BlankParts
import SampleForge.Proofs.Text.RawLines

/-!
# What an accepted file is made of

Whether a file is accepted, and with what result, hangs on three things only: its first line without
white space around it, the values that the lines of its header carry for each key, and the trimmed texts of
the parts of its body.  `readCorpusLines_ok_iff` says so of a list of lines that is put together from a title,
a header and a body, and `readCorpusLines_ok_congr` compares two of them.

A line feed behind the text makes no difference to this, `readCorpus_ok_iff_rawLines`: a file is accepted with
the same result as the list of its raw lines.
-/

namespace SampleForge

open Text

/-! ## Lines up to white space -/

section UpToWhiteSpace

variable {line line' : Line}

theorem isHashLine_congr (h : trim line = trim line') : isHashLine line = isHashLine line' := by
  rw [isHashLine, h, isHashLine]

theorem isSeparator_congr (h : trim line = trim line') : isSeparator line = isSeparator line' := by
  rw [isSeparator, isSeparator, h]

theorem headerValue?_congr (h : trim line = trim line') (key : HeaderKey) :
    headerValue? key line = headerValue? key line' := by
  rw [headerValue?, h, headerValue?]

theorem trim_of_allBlank (h : allBlank line = true) : trim line = trim [] := by
  rw [trim_eq_nil_iff.2 h]
  rfl

theorem isHashLine_of_allBlank (h : allBlank line = true) : isHashLine line = false :=
  isHashLine_congr (trim_of_allBlank h)

theorem isSeparator_of_allBlank (h : allBlank line = true) : isSeparator line = false :=
  isSeparator_congr (trim_of_allBlank h)

theorem isHashLine_of_isSeparator (h : isSeparator line = true) : isHashLine line = false := by
  have hseparator : isHashLine separatorLine.toList = false := by decide
  rw [← hseparator]
  refine isHashLine_congr ?_
  have htrim : trim separatorLine.toList = separatorLine.toList := by decide
  rw [htrim]
  exact of_decide_eq_true h

end UpToWhiteSpace

/-! ## The values of a header -/

/-- The values that lines carry for a key, in order. -/
def headerValues (key : HeaderKey) (header : List Line) : List (List Char) :=
  header.filterMap (headerValue? key)

theorem head?_headerValues_eq_some_iff {key : HeaderKey} {header : List Line} {value : List Char} :
    (headerValues key header).head? = some value ↔
      ∃ position, FirstCarrier header key position value := by
  rw [headerValues, List.head?_filterMap, List.findSome?_eq_some_iff]
  constructor
  · rintro ⟨before, line, after, rfl, hline, hbefore⟩
    refine ⟨before.length, firstCarrier_of_absent ?_ (headerValue?_eq_some_iff.1 hline) after⟩
    exact fun earlier hearlier => headerValue?_eq_none_iff.1 (hbefore earlier hearlier)
  · rintro ⟨position, ⟨line, hline, hcarries⟩, hfirst⟩
    obtain ⟨hlt, rfl⟩ := List.getElem?_eq_some_iff.1 hline
    refine ⟨header.take position, header[position], header.drop (position + 1), ?_,
      headerValue?_eq_some_iff.2 hcarries, ?_⟩
    · rw [List.getElem_cons_drop, List.take_append_drop]
    · intro earlier hearlier
      obtain ⟨i, hi, rfl⟩ := List.mem_take_iff_getElem.1 hearlier
      have hi' : i < position := by omega
      exact headerValue?_eq_none_iff.2 (hfirst i hi' _ (List.getElem?_eq_getElem (by omega)))

/-- A header gives the numbers on the first lines of the two keys. -/
theorem headerReading_ok_iff {header : List Line} {provenance : Provenance} :
    HeaderReading header (.ok provenance) ↔ ∃ seedText countText,
      (headerValues .seed header).head? = some seedText ∧
      (headerValues .count header).head? = some countText ∧
      SignedNumeral seedText provenance.seed.toInt ∧
      UnsignedNumeral countText provenance.count.toNat := by
  simp only [head?_headerValues_eq_some_iff]
  constructor
  · intro h
    cases h with
    | values seedLine seedValue countLine countValue =>
        exact ⟨_, _, ⟨_, seedLine⟩, ⟨_, countLine⟩, seedValue, countValue⟩
  · rintro ⟨seedText, countText, ⟨atSeed, hseed⟩, ⟨atCount, hcount⟩, hseedValue, hcountValue⟩
    exact .values hseed hseedValue hcount hcountValue

/-! ## The texts of a body -/

/-- The trimmed texts of the parts between separators. -/
def partTexts (body : List Line) : List (List Char) :=
  (body.splitOnP isSeparator).map fun part => trim (partText part)

theorem isBlankPart_eq (part : Block) : isBlankPart part = (trim (partText part)).isEmpty := rfl

theorem partTexts_append_cons {separator : Line} (hseparator : isSeparator separator = true)
    (before after : List Line) :
    partTexts (before ++ separator :: after) = partTexts before ++ partTexts after := by
  rw [partTexts, List.splitOnP_append_cons before after hseparator, List.map_append]
  rfl

/-- A blank line at the start adds nothing to the first text. -/
theorem partTexts_cons_of_allBlank {line : Line} (hline : allBlank line = true)
    (body : List Line) : partTexts (line :: body) = partTexts body := by
  obtain ⟨first, rest, hsplit⟩ :=
    List.exists_cons_of_ne_nil (List.splitOnP_ne_nil isSeparator body)
  have hfeed : allBlank (line ++ ['\n']) = true := by
    rw [allBlank_append, hline]
    decide
  have htext : trim (line ++ '\n' :: partText first) = trim (partText first) := by
    rw [← List.singleton_append, ← List.append_assoc, trim_append_left_of_allBlank hfeed]
  simp [partTexts, List.splitOnP_cons_eq_if_modifyHead, isSeparator_of_allBlank hline, hsplit, htext]

theorem partText_concat (part : Block) (line : Line) :
    partText (part ++ [line]) = partText part ++ (line ++ ['\n']) := by
  simp [partText]

/-- What a line at the end means is seen from its text with a line feed behind. -/
theorem partTexts_concat_congr {line line' : Line} (hsame : trim line = trim line')
    (htext : ∀ front, trim (front ++ (line ++ ['\n'])) = trim (front ++ (line' ++ ['\n'])))
    (body : List Line) : partTexts (body ++ [line]) = partTexts (body ++ [line']) := by
  by_cases hline : isSeparator line = true
  · have hline' : isSeparator line' = true := (isSeparator_congr hsame).symm.trans hline
    rw [partTexts_append_cons hline, partTexts_append_cons hline']
  · have hline : isSeparator line = false := Bool.eq_false_of_not_eq_true hline
    have hline' : isSeparator line' = false := (isSeparator_congr hsame).symm.trans hline
    obtain ⟨before, last, -, hconcat⟩ := exists_splitOnP_concat isSeparator body
    unfold partTexts
    rw [hconcat line hline, hconcat line' hline', List.map_append, List.map_append,
      List.map_singleton, List.map_singleton, partText_concat, partText_concat, htext]

/-- A blank line at the end adds nothing to the last text. -/
theorem partTexts_concat_of_allBlank {line : Line} (hline : allBlank line = true)
    (body : List Line) : partTexts (body ++ [line]) = partTexts body := by
  obtain ⟨before, last, hsplit, hconcat⟩ := exists_splitOnP_concat isSeparator body
  have hfeed : allBlank (line ++ ['\n']) = true := by
    rw [allBlank_append, hline]
    decide
  unfold partTexts
  rw [hconcat line (isSeparator_of_allBlank hline), hsplit, List.map_append, List.map_append,
    List.map_singleton, List.map_singleton, partText_concat, trim_append_of_allBlank hfeed]

/-- A carriage return at the end adds nothing either. -/
theorem partTexts_concat_withoutReturn (body : List Line) (line : Line) :
    partTexts (body ++ [withoutReturn line]) = partTexts (body ++ [line]) := by
  refine partTexts_concat_congr (trim_withoutReturn line) (fun front => ?_) body
  unfold withoutReturn
  split
  · next hreturn =>
      have hline : line = line.dropLast ++ ['\r'] :=
        (List.dropLast_append_getLast? '\r' hreturn).symm
      have hfeed : allBlank ['\n'] = true := by decide
      have hreturn : allBlank ['\r', '\n'] = true := by decide
      conv_rhs => rw [hline, List.append_assoc, List.singleton_append, ← List.append_assoc,
        trim_append_of_allBlank hreturn]
      rw [← List.append_assoc, trim_append_of_allBlank hfeed]
  · rfl

/-- The parts are kept that have text, if no other than the first and the last has none. -/
theorem keptParts_eq_filter {body : List Line} {first : Block} {rest : List Block}
    (hsplit : body.splitOnP isSeparator = first :: rest)
    (hrest : ∀ part ∈ rest.dropLast, isBlankPart part = false) :
    keptParts body = (first :: rest).filter fun part => !isBlankPart part := by
  have hfilled : ∀ parts : List Block, (∀ part ∈ parts, isBlankPart part = false) →
      (parts.filter fun part => !isBlankPart part) = parts := by
    intro parts hparts
    exact List.filter_eq_self.2 fun part hpart => by rw [hparts part hpart]; rfl
  have hlater : (rest.filter fun part => !isBlankPart part) =
      if rest.getLast?.any isBlankPart then rest.dropLast else rest := by
    cases rest using List.reverseRecOn with
    | nil => rfl
    | append_singleton init last =>
        rw [List.dropLast_concat] at hrest ⊢
        rw [List.getLast?_concat, Option.any_some, List.filter_append, hfilled init hrest]
        by_cases hlast : isBlankPart last = true
        · simp [hlast]
        · simp [hlast]
  rw [keptParts_eq hsplit, List.filter_cons, hlater]
  by_cases hfirst : isBlankPart first = true
  · simp [hfirst]
  · simp [hfirst]

/-- The programs are the texts that are not empty, and a text between two separators must not be. -/
theorem programsReading_ok_iff {body : List Line} {programs : List String} :
    ProgramsReading (keptParts body) (.ok programs) ↔
      (∀ text ∈ (partTexts body).tail.dropLast, text ≠ []) ∧
        programs = ((partTexts body).filter fun text => !text.isEmpty).map String.ofList := by
  obtain ⟨first, rest, hsplit⟩ :=
    List.exists_cons_of_ne_nil (List.splitOnP_ne_nil isSeparator body)
  have hmiddle : (∀ text ∈ (partTexts body).tail.dropLast, text ≠ []) ↔
      ∀ part ∈ rest.dropLast, isBlankPart part = false := by
    rw [partTexts, hsplit, List.map_cons, List.tail_cons, ← List.map_dropLast,
      List.forall_mem_map]
    simp only [isBlankPart_eq, List.isEmpty_eq_false_iff]
  have hprograms : ((partTexts body).filter fun text => !text.isEmpty).map String.ofList =
      ((first :: rest).filter fun part => !isBlankPart part).map partProgram := by
    rw [partTexts, hsplit, List.filter_map, List.map_map]
    rfl
  rw [hmiddle, hprograms]
  constructor
  · intro h
    cases h with
    | programs filled =>
        have hrest : ∀ part ∈ rest.dropLast, isBlankPart part = false := by
          intro part hpart
          refine filled part ?_
          rw [keptParts_eq hsplit]
          refine List.mem_append_right _ ?_
          split
          · exact hpart
          · exact List.mem_of_mem_dropLast hpart
        exact ⟨hrest, by rw [keptParts_eq_filter hsplit hrest]⟩
  · rintro ⟨hrest, rfl⟩
    rw [← keptParts_eq_filter hsplit hrest]
    refine .programs fun part hpart => ?_
    rw [keptParts_eq_filter hsplit hrest] at hpart
    simpa using (List.mem_filter.1 hpart).2

/-! ## Title, header and body -/

/-- The header is the longest run of `#` lines in front of the body. -/
structure HeaderRun (header body : List Line) : Prop where
  hashes : ∀ line ∈ header, isHashLine line = true
  stops : ∀ line ∈ body.head?, isHashLine line = false

theorem headerRun_cut (lines : List Line) :
    HeaderRun (lines.takeWhile isHashLine) (lines.dropWhile isHashLine) := by
  refine ⟨fun line hline => List.mem_takeWhile_imp hline, fun line hline => ?_⟩
  have hnot := List.head?_dropWhile_not isHashLine lines
  rw [Option.mem_def.1 hline] at hnot
  exact hnot

theorem HeaderRun.takeWhile_eq {header body : List Line} (h : HeaderRun header body) :
    (header ++ body).takeWhile isHashLine = header := by
  rw [List.takeWhile_append_of_pos h.hashes]
  cases body with
  | nil => simp
  | cons line body => simp [h.stops line rfl]

theorem HeaderRun.dropWhile_eq {header body : List Line} (h : HeaderRun header body) :
    (header ++ body).dropWhile isHashLine = body := by
  rw [List.dropWhile_append_of_pos h.hashes]
  cases body with
  | nil => rfl
  | cons line body => simp [h.stops line rfl]

/-- Lines are accepted for their title, their header and their body, each by itself. -/
theorem readCorpusLines_ok_iff {title : Line} {header body : List Line} {corpus : Corpus}
    (hrun : HeaderRun header body) :
    readCorpusLines (title :: (header ++ body)) = .ok corpus ↔
      trim title = titleLine.toList ∧ HeaderReading header (.ok corpus.header) ∧
        ProgramsReading (keptParts body) (.ok corpus.programs) := by
  rw [readCorpusLines_eq_iff]
  constructor
  · intro h
    cases h with
    | corpus titled header parts =>
        rw [hrun.takeWhile_eq] at header
        rw [hrun.dropWhile_eq] at parts
        exact ⟨titled, header, parts⟩
  · rintro ⟨htitle, hheader, hparts⟩
    rw [← hrun.takeWhile_eq] at hheader
    rw [← hrun.dropWhile_eq] at hparts
    exact .corpus htitle hheader hparts

theorem readCorpusLines_ok_congr {title title' : Line} {header header' body body' : List Line}
    (hrun : HeaderRun header body) (hrun' : HeaderRun header' body')
    (htitle : trim title = trim title')
    (hheader : ∀ key, headerValues key header = headerValues key header')
    (hbody : partTexts body = partTexts body') (corpus : Corpus) :
    readCorpusLines (title :: (header ++ body)) = .ok corpus ↔
      readCorpusLines (title' :: (header' ++ body')) = .ok corpus := by
  rw [readCorpusLines_ok_iff hrun, readCorpusLines_ok_iff hrun', htitle, headerReading_ok_iff,
    headerReading_ok_iff, hheader, hheader, programsReading_ok_iff, programsReading_ok_iff, hbody]

/-- A line goes to the end of the body unless it still belongs to the header. -/
theorem HeaderRun.concat {header body : List Line} {line : Line} (h : HeaderRun header body)
    (hline : body = [] → isHashLine line = false) : HeaderRun header (body ++ [line]) := by
  refine ⟨h.hashes, fun first hfirst => ?_⟩
  cases body with
  | nil =>
      obtain rfl : line = first := Option.some.inj hfirst
      exact hline rfl
  | cons next body => exact h.stops first hfirst

theorem readCorpusLines_nil_ne_ok (corpus : Corpus) : readCorpusLines [] ≠ .ok corpus := nofun

/-- An accepted file has a title, a header and a body. -/
theorem exists_run_of_ok {lines : List Line} {corpus : Corpus}
    (h : readCorpusLines lines = .ok corpus) :
    ∃ title header body, lines = title :: (header ++ body) ∧ HeaderRun header body := by
  cases lines with
  | nil => exact absurd h (readCorpusLines_nil_ne_ok corpus)
  | cons title rest =>
      exact ⟨title, rest.takeWhile isHashLine, rest.dropWhile isHashLine,
        by rw [List.takeWhile_append_dropWhile], headerRun_cut rest⟩

/-! ## The end of the text -/

/-- An empty line at the end means nothing. -/
theorem readCorpusLines_concat_nil_ok_iff {lines : List Line} {corpus : Corpus} :
    readCorpusLines (lines ++ [[]]) = .ok corpus ↔ readCorpusLines lines = .ok corpus := by
  cases lines with
  | nil =>
      have huntitled : readCorpusLines [[]] = .error .noTitle := by decide
      rw [List.nil_append, huntitled]
      exact ⟨nofun, fun h => absurd h (readCorpusLines_nil_ne_ok corpus)⟩
  | cons title rest =>
      have hrun := headerRun_cut rest
      have hempty : isHashLine [] = false := by decide
      have hcongr := readCorpusLines_ok_congr (hrun.concat fun _ => hempty) hrun
        (rfl : trim title = trim title) (fun _ => rfl) (partTexts_concat_of_allBlank rfl _) corpus
      rwa [← List.append_assoc, List.takeWhile_append_dropWhile] at hcongr

/-- A carriage return at the end means nothing. -/
theorem readCorpusLines_concat_withoutReturn_ok_iff {lines : List Line} {last : Line}
    {corpus : Corpus} :
    readCorpusLines (lines ++ [withoutReturn last]) = .ok corpus ↔
      readCorpusLines (lines ++ [last]) = .ok corpus := by
  have htrim := trim_withoutReturn last
  cases lines with
  | nil =>
      have hempty : HeaderRun [] [] := ⟨List.forall_mem_nil _, by simp⟩
      exact readCorpusLines_ok_congr hempty hempty htrim (fun _ => rfl) rfl corpus
  | cons title rest =>
      have hrun := headerRun_cut rest
      by_cases hinside : rest.dropWhile isHashLine = [] ∧ isHashLine last = true
      · -- The last line is one of the header.
        obtain ⟨hbody, hlast⟩ := hinside
        have hrest : rest.takeWhile isHashLine = rest := by
          conv_rhs => rw [← List.takeWhile_append_dropWhile (p := isHashLine) (l := rest), hbody,
            List.append_nil]
        rw [hrest] at hrun
        have hheader : ∀ line, trim line = trim last → HeaderRun (rest ++ [line]) [] := by
          intro line hline
          have hhash := (isHashLine_congr hline).trans hlast
          exact ⟨List.forall_mem_append.2 ⟨hrun.hashes, List.forall_mem_singleton.2 hhash⟩, by simp⟩
        have hvalues : ∀ key, headerValues key (rest ++ [withoutReturn last]) =
            headerValues key (rest ++ [last]) := by
          intro key
          simp [headerValues, List.filterMap_cons, headerValue?_congr htrim]
        have hcongr := readCorpusLines_ok_congr (hheader _ htrim) (hheader _ rfl)
          (rfl : trim title = trim title) hvalues rfl corpus
        rwa [List.append_nil, List.append_nil] at hcongr
      · have hstops : ∀ line, trim line = trim last →
            HeaderRun (rest.takeWhile isHashLine) (rest.dropWhile isHashLine ++ [line]) := by
          intro line hline
          refine hrun.concat fun hbody => ?_
          rw [isHashLine_congr hline]
          exact Bool.eq_false_of_not_eq_true fun hlast => hinside ⟨hbody, hlast⟩
        have hcongr := readCorpusLines_ok_congr (hstops _ htrim) (hstops _ rfl)
          (rfl : trim title = trim title) (fun _ => rfl) (partTexts_concat_withoutReturn _ last) corpus
        rwa [← List.append_assoc, ← List.append_assoc, List.takeWhile_append_dropWhile] at hcongr

/-- A file is accepted for its raw lines. -/
theorem readCorpus_ok_iff_rawLines {text : String} {corpus : Corpus} :
    readCorpus text = .ok corpus ↔
      readCorpusLines ((rawLines text.toList).map withoutReturn) = .ok corpus := by
  rw [readCorpus, ← lines_append_feed_eq_map]
  rcases lines_append_feed_cases text.toList with hlines | ⟨before, last, hlines, hfeed⟩
  · rw [hlines, readCorpusLines_concat_nil_ok_iff]
  · rw [hlines, hfeed, readCorpusLines_concat_withoutReturn_ok_iff]

end SampleForge
