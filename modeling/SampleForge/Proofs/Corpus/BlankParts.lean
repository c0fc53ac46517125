import SampleForge.Proofs.Corpus.Reading

/-!
# Where an accepted file may have blank parts

The separator lines of a file cut the lines after its header into parts, one more than there are
separators.  A file that is accepted has something written in every part between two separators.  The
part before the first separator may be blank, and the part after the last one may be too: a file may
end in a separator and white space, although nothing is to be read there.

`readCorpus_ok_parts` counts the programs of an accepted file by its separators and says when no part
but the first is blank; `blank_last_part_accepted` is a file in which another one is.
-/

namespace SampleForge

open Text

/-- The lines of a file after the title and the header. -/
def corpusBody (text : String) : List Line :=
  (lines text.toList).tail.dropWhile isHashLine

/-- The parts between the separator lines of a file. -/
def corpusParts (text : String) : List Block :=
  (corpusBody text).splitOnP isSeparator

/-- Something other than white space stands in the part. -/
def HasText (part : Block) : Prop :=
  ∃ line ∈ part, ∃ c ∈ line, isBlank c = false

instance (part : Block) : Decidable (HasText part) :=
  inferInstanceAs (Decidable (∃ line ∈ part, ∃ c ∈ line, isBlank c = false))

theorem isBlankPart_eq_false_iff {part : Block} : isBlankPart part = false ↔ HasText part := by
  rw [← isBlankBlock_eq, isBlankBlock, List.all_eq_false]
  simp only [allBlank, List.all_eq_true, not_forall, HasText, Bool.not_eq_true, exists_prop]

/-- Every separator begins one more part. -/
theorem length_splitOnP (p : Line → Bool) (lines : List Line) :
    (lines.splitOnP p).length = lines.countP p + 1 := by
  induction lines with
  | nil => rfl
  | cons line lines ih =>
      rw [List.splitOnP_cons_eq_if_modifyHead]
      by_cases hline : p line = true
      · rw [if_pos hline, List.length_cons, ih, List.countP_cons_of_pos hline]
      · rw [if_neg hline, List.length_modifyHead, ih, List.countP_cons_of_neg hline]

/-- The first and the last part are left out if they are blank, each for itself. -/
theorem keptParts_eq {lines : List Line} {first : Block} {rest : List Block}
    (hsplit : lines.splitOnP isSeparator = first :: rest) :
    keptParts lines = (if isBlankPart first then [] else [first]) ++
      (if rest.getLast?.any isBlankPart then rest.dropLast else rest) := by
  cases rest with
  | nil =>
      by_cases hfirst : isBlankPart first = true
      · simp [keptParts, hsplit, hfirst]
      · simp [keptParts, hsplit, hfirst]
  | cons next rest =>
      have hlast : (first :: next :: rest).getLast? = (next :: rest).getLast? :=
        List.getLast?_cons_of_ne_nil (List.cons_ne_nil next rest)
      simp only [keptParts, hsplit, hlast]
      by_cases hfirst : isBlankPart first = true
      · by_cases hblank : (next :: rest).getLast?.any isBlankPart = true
        · simp [hblank, hfirst]
        · simp [hblank, hfirst]
      · by_cases hblank : (next :: rest).getLast?.any isBlankPart = true
        · simp [hblank, hfirst]
        · simp [hblank, hfirst]

/-- An accepted file has a program in every part that is kept, and no other programs. -/
theorem keptParts_of_ok {text : String} {corpus : Corpus} (h : readCorpus text = .ok corpus) :
    (∀ part ∈ keptParts (corpusBody text), HasText part) ∧
      corpus.programs.length = (keptParts (corpusBody text)).length := by
  have hreading := (readCorpus_eq_iff_corpusReading text (.ok corpus)).1 h
  unfold corpusBody
  generalize lines text.toList = lines at hreading ⊢
  cases hreading with
  | corpus titled header parts =>
      cases parts with
      | programs filled =>
          rw [List.tail_cons]
          exact ⟨fun part hpart => isBlankPart_eq_false_iff.1 (filled part hpart), List.length_map _⟩

/-- In an accepted file every part between two separators has text.  There are as many programs as
separators, one more if the part before them has text, and one less if the part behind them has none.
Only that last case is a blank part other than the first. -/
theorem readCorpus_ok_parts {text : String} {corpus : Corpus}
    (h : readCorpus text = .ok corpus) :
    ∃ first rest, corpusParts text = first :: rest ∧
      (∀ part ∈ rest.dropLast, HasText part) ∧
      corpus.programs.length + (if rest.getLast?.any isBlankPart then 1 else 0) =
        (corpusBody text).countP isSeparator + (if HasText first then 1 else 0) ∧
      ((∀ part ∈ rest, HasText part) ↔ rest.getLast?.any isBlankPart = false) := by
  obtain ⟨first, rest, hsplit⟩ := List.exists_cons_of_ne_nil
    (List.splitOnP_ne_nil isSeparator (corpusBody text))
  obtain ⟨hkept, hprograms⟩ := keptParts_of_ok h
  have hlength : rest.length = (corpusBody text).countP isSeparator := by
    have hparts := length_splitOnP isSeparator (corpusBody text)
    rw [hsplit, List.length_cons] at hparts
    omega
  have hfirst : (if isBlankPart first then [] else [first]).length =
      if HasText first then 1 else 0 := by
    by_cases hblank : isBlankPart first = true
    · have hnone : ¬ HasText first := fun htext => by
        rw [isBlankPart_eq_false_iff.2 htext] at hblank
        contradiction
      simp [hblank, hnone]
    · have htext := isBlankPart_eq_false_iff.1 (Bool.eq_false_of_not_eq_true hblank)
      simp [hblank, htext]
  rw [keptParts_eq hsplit] at hkept hprograms
  rw [List.length_append, hfirst] at hprograms
  refine ⟨first, rest, hsplit, ?_⟩
  by_cases hlast : rest.getLast?.any isBlankPart = true
  · rw [if_pos hlast] at hkept hprograms
    have hne : rest ≠ [] := by
      rintro rfl
      cases hlast
    have hpos : 0 < rest.length := List.length_pos_of_ne_nil hne
    have hblank : isBlankPart (rest.getLast hne) = true := by
      rwa [List.getLast?_eq_some_getLast hne, Option.any_some] at hlast
    refine ⟨fun part hpart => hkept part (List.mem_append_right _ hpart), ?_, ?_⟩
    · rw [if_pos hlast, hprograms, List.length_dropLast]
      omega
    · simp only [hlast, Bool.true_eq_false, iff_false]
      intro hall
      rw [isBlankPart_eq_false_iff.2 (hall _ (List.getLast_mem hne))] at hblank
      contradiction
  · rw [if_neg hlast] at hkept hprograms
    have hrest : ∀ part ∈ rest, HasText part := fun part hpart =>
      hkept part (List.mem_append_right _ hpart)
    refine ⟨fun part hpart => hrest part (List.mem_of_mem_dropLast hpart), ?_, ?_⟩
    · rw [if_neg hlast, hprograms]
      omega
    · exact ⟨fun _ => Bool.eq_false_of_not_eq_true hlast, fun _ => hrest⟩

/-- Two separators and two programs, with a blank first part. -/
theorem readCorpus_ok_parts_two :
    let text := titleLine ++ "\n# seed=1\n# count=2\n\n---\nA\n---\nB\n"
    readCorpus text = .ok ⟨⟨1, 2⟩, ["A", "B"]⟩ ∧
      ∃ first rest, corpusParts text = first :: rest ∧
        (∀ part ∈ rest.dropLast, HasText part) ∧
        2 + (if rest.getLast?.any isBlankPart then 1 else 0) =
          (corpusBody text).countP isSeparator + (if HasText first then 1 else 0) ∧
        ((∀ part ∈ rest, HasText part) ↔ rest.getLast?.any isBlankPart = false) := by
  have hread : readCorpus (titleLine ++ "\n# seed=1\n# count=2\n\n---\nA\n---\nB\n") =
      .ok ⟨⟨1, 2⟩, ["A", "B"]⟩ := by decide +kernel
  exact ⟨hread, readCorpus_ok_parts hread⟩

/-- A file is accepted although the part after its last separator is blank; it has two separators, a
blank first part and one program. -/
theorem blank_last_part_accepted :
    let text := titleLine ++ "\n# seed=1\n# count=1\n\n---\nA\n---\n\n"
    readCorpus text = .ok ⟨⟨1, 1⟩, ["A"]⟩ ∧
      corpusParts text = [[[]], [['A']], [[]]] ∧
      (¬ ∀ part ∈ (corpusParts text).tail, HasText part) ∧
      (corpusBody text).countP isSeparator = 2 := by
  intro text
  have hread : readCorpus text = .ok ⟨⟨1, 1⟩, ["A"]⟩ := by decide +kernel
  have hbody : corpusBody text = [[], ['-', '-', '-'], ['A'], ['-', '-', '-'], []] := by
    decide +kernel
  have hparts : corpusParts text = [[[]], [['A']], [[]]] := by
    rw [corpusParts, hbody]
    decide
  refine ⟨hread, hparts, ?_, ?_⟩
  · rw [hparts, List.tail_cons]
    simp [HasText]
  · rw [hbody]
    decide

end SampleForge
