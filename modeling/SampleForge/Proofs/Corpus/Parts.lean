import SampleForge.Corpus.Reader
import SampleForge.Proofs.Text.Trimming

/-!
# The parts between separator lines

The lines after a header are split at the separator lines.  A blank part at the end is left out,
and then a blank part at the beginning.  `ProgramsReading` says what the parts that are kept amount
to: the first blank one is an error, and without one every part is a program.

The reader collects the parts in reverse, line by line, with the open part apart.
`BlockReader.parts` puts them in order, and `parts_foldl_read` is what a run over the lines does to
it.  `readPrograms_eq_iff` is the result.
-/

namespace SampleForge

open Text

/-- The line is a separator with white space around it. -/
def isSeparator (line : Line) : Bool :=
  decide (trim line = separatorLine.toList)

/-- The text of a part, every line with its line feed. -/
def partText (part : Block) : List Char :=
  part.flatMap fun line => line ++ ['\n']

/-- The text of the part without white space around it. -/
def partProgram (part : Block) : String :=
  String.ofList (trim (partText part))

/-- There is nothing but white space in the part. -/
def isBlankPart (part : Block) : Bool :=
  (trim (partText part)).isEmpty

/-- The parts between separators, without a blank last part and then without a blank first one. -/
def keptParts (lines : List Line) : List Block :=
  let parts := lines.splitOnP isSeparator
  let parts := if parts.getLast?.any isBlankPart then parts.dropLast else parts
  if parts.head?.any isBlankPart then parts.tail else parts

/-- What a list of parts amounts to. -/
inductive ProgramsReading (parts : List Block) : Except CorpusFault (List String) → Prop
  | emptyPart {position : Nat} {part : Block} (found : parts[position]? = some part)
      (blank : isBlankPart part = true)
      (first : ∀ earlier < position, ∀ other, parts[earlier]? = some other →
        isBlankPart other = false) :
      ProgramsReading parts (.error (.emptyProgram (position + 1)))
  | programs (filled : ∀ part ∈ parts, isBlankPart part = false) :
      ProgramsReading parts (.ok (parts.map partProgram))

/-! ## One part -/

@[simp] theorem partText_nil : partText [] = [] := rfl

@[simp] theorem partText_cons (line : Line) (part : Block) :
    partText (line :: part) = line ++ '\n' :: partText part := by
  simp [partText]

theorem isBlank_feed : isBlank '\n' = true := by decide

/-- A line feed between two lines, and one more at the end. -/
theorem intercalate_feed_append (line : Line) (part : Block) :
    List.intercalate ['\n'] (line :: part) ++ ['\n'] = partText (line :: part) := by
  induction part generalizing line with
  | nil => simp
  | cons next part ih =>
      rw [partText_cons, ← ih next, List.intercalate_cons_cons]
      simp

theorem blockProgram_eq (part : Block) : blockProgram part = trim (partText part) := by
  cases part with
  | nil => rfl
  | cons line part =>
      have hfeed : allBlank ['\n'] = true := by decide
      rw [← intercalate_feed_append, trim_append_of_allBlank hfeed]
      rfl

theorem allBlank_partText (part : Block) : allBlank (partText part) = part.all allBlank := by
  induction part with
  | nil => rfl
  | cons line part ih =>
      have hfeed : allBlank ('\n' :: partText part) = allBlank (partText part) := by
        simp [allBlank, isBlank_feed]
      rw [partText_cons, allBlank_append, hfeed, ih, List.all_cons]

theorem isBlankBlock_eq (part : Block) : isBlankBlock part = isBlankPart part := by
  rw [isBlankBlock, ← allBlank_partText, Bool.eq_iff_iff, isBlankPart, List.isEmpty_iff,
    trim_eq_nil_iff]

theorem readProgram_eq (part : Block) (position : Nat) :
    readProgram part position =
      if isBlankPart part then .error (.emptyProgram position) else .ok (partProgram part) := by
  rw [readProgram, isBlankBlock_eq, blockProgram_eq]
  rfl

/-! ## The run over the lines -/

/-- The parts so far in order, the open one last. -/
def BlockReader.parts (reader : BlockReader) : List Block :=
  reader.closed.reverse ++ [reader.current.reverse]

/-- A run splits its lines, and what was open goes in front of the first part. -/
theorem parts_foldl_read (lines : List Line) (reader : BlockReader) :
    (lines.foldl BlockReader.read reader).parts =
      reader.closed.reverse ++ lines.splitOnPPrepend isSeparator reader.current := by
  -- The open part is the reversed prefix that the library's split carries along.
  induction lines generalizing reader with
  | nil => rfl
  | cons line lines ih =>
      rw [List.foldl_cons, ih]
      by_cases hline : isSeparator line = true
      · have hread : reader.read line = ⟨reader.current.reverse :: reader.closed, []⟩ :=
          if_pos hline
        rw [hread, List.splitOnPPrepend_cons_pos hline]
        simp
      · have hread : reader.read line = ⟨reader.closed, line :: reader.current⟩ := if_neg hline
        rw [hread, List.splitOnPPrepend_cons_neg (Bool.eq_false_of_not_eq_true hline)]

theorem finish_eq (reader : BlockReader) :
    reader.finish = if reader.parts.getLast?.any isBlankPart then reader.parts.dropLast
      else reader.parts := by
  simp only [BlockReader.finish, BlockReader.parts, isBlankBlock_eq, List.getLast?_concat,
    Option.any_some, List.dropLast_concat]
  split
  · rfl
  · exact List.reverse_cons

theorem dropLeadingBlank_eq (parts : List Block) :
    dropLeadingBlank parts = if parts.head?.any isBlankPart then parts.tail else parts := by
  cases parts with
  | nil => rfl
  | cons part parts =>
      rw [dropLeadingBlank, isBlankBlock_eq]
      rfl

theorem dropLeadingBlank_finish (lines : List Line) :
    dropLeadingBlank (lines.foldl BlockReader.read ⟨[], []⟩).finish = keptParts lines := by
  rw [dropLeadingBlank_eq, finish_eq, parts_foldl_read]
  rfl

/-- Only a blank first part goes when every other part is filled. -/
theorem keptParts_of_blank_first {lines : List Line} {first : Block} {parts : List Block}
    (hsplit : lines.splitOnP isSeparator = first :: parts) (hfirst : isBlankPart first = true)
    (hne : parts ≠ []) (hparts : ∀ part ∈ parts, isBlankPart part = false) :
    keptParts lines = parts := by
  have hlast : (first :: parts).getLast?.any isBlankPart = false := by
    rw [List.getLast?_cons_of_ne_nil hne, List.getLast?_eq_some_getLast hne, Option.any_some]
    exact hparts _ (List.getLast_mem hne)
  simp [keptParts, hsplit, hlast, hfirst]

/-! ## The programs of the parts -/

/-- The programs of parts numbered from `start`. -/
def programsFrom (start : Nat) (parts : List Block) : Except CorpusFault (List String) :=
  (parts.zipIdx start).mapM fun numbered => readProgram numbered.1 numbered.2

theorem programsFrom_cons_blank {part : Block} (hpart : isBlankPart part = true) (start : Nat)
    (parts : List Block) :
    programsFrom start (part :: parts) = .error (.emptyProgram start) := by
  rw [programsFrom, List.zipIdx_cons, List.mapM_cons, readProgram_eq, if_pos hpart]
  rfl

theorem programsFrom_cons_filled {part : Block} (hpart : isBlankPart part = false) (start : Nat)
    (parts : List Block) :
    programsFrom start (part :: parts) =
      (programsFrom (start + 1) parts).map (partProgram part :: ·) := by
  rw [programsFrom, List.zipIdx_cons, List.mapM_cons, readProgram_eq, hpart]
  change (do
    let programs ← programsFrom (start + 1) parts
    pure (partProgram part :: programs)) = _
  cases programsFrom (start + 1) parts <;> rfl

theorem programsFrom_filled {parts : List Block}
    (hparts : ∀ part ∈ parts, isBlankPart part = false) (start : Nat) :
    programsFrom start parts = .ok (parts.map partProgram) := by
  induction parts generalizing start with
  | nil => rfl
  | cons part parts ih =>
      rw [programsFrom_cons_filled (hparts part List.mem_cons_self),
        ih (fun other hother => hparts other (List.mem_cons_of_mem part hother))]
      rfl

theorem programsFrom_first_blank {parts : List Block} {position : Nat} {part : Block}
    (hfound : parts[position]? = some part) (hblank : isBlankPart part = true)
    (hfirst : ∀ earlier < position, ∀ other, parts[earlier]? = some other →
      isBlankPart other = false) (start : Nat) :
    programsFrom start parts = .error (.emptyProgram (start + position)) := by
  induction position generalizing parts start with
  | zero =>
      cases parts with
      | nil => simp at hfound
      | cons head parts =>
          obtain rfl : head = part := by simpa using hfound
          exact programsFrom_cons_blank hblank start parts
  | succ position ih =>
      cases parts with
      | nil => simp at hfound
      | cons head parts =>
          have hhead : isBlankPart head = false := hfirst 0 (by omega) head rfl
          have hfound' : parts[position]? = some part := by simpa using hfound
          have hrest := ih hfound'
            (fun earlier hearlier other hother =>
              hfirst (earlier + 1) (by omega) other (by simpa using hother)) (start + 1)
          rw [programsFrom_cons_filled hhead, hrest, Nat.add_assoc, Nat.add_comm 1 position]
          rfl

/-- Either no part is blank, or one is the first. -/
theorem filled_or_first_blank (parts : List Block) :
    (∀ part ∈ parts, isBlankPart part = false) ∨
      ∃ (position : Nat) (part : Block), parts[position]? = some part ∧
        isBlankPart part = true ∧ ∀ earlier < position, ∀ other,
          parts[earlier]? = some other → isBlankPart other = false := by
  cases hfind : parts.findIdx? isBlankPart with
  | none => exact Or.inl (List.findIdx?_eq_none_iff.1 hfind)
  | some position =>
      obtain ⟨hlt, hblank, hfirst⟩ := List.findIdx?_eq_some_iff_getElem.1 hfind
      refine Or.inr ⟨position, parts[position], List.getElem?_eq_getElem hlt, hblank, ?_⟩
      intro earlier hearlier other hother
      obtain ⟨hbound, rfl⟩ := List.getElem?_eq_some_iff.1 hother
      exact Bool.eq_false_of_not_eq_true (hfirst earlier hearlier)

/-- The reader follows the reading and nothing else. -/
theorem readPrograms_eq_iff {lines : List Line} {outcome : Except CorpusFault (List String)} :
    readPrograms lines = outcome ↔ ProgramsReading (keptParts lines) outcome := by
  have hread : readPrograms lines = programsFrom 1 (keptParts lines) := by
    rw [← dropLeadingBlank_finish]
    rfl
  rw [hread]
  constructor
  · rintro rfl
    rcases filled_or_first_blank (keptParts lines) with hfilled |
      ⟨position, part, hfound, hblank, hfirst⟩
    · rw [programsFrom_filled hfilled]
      exact .programs hfilled
    · rw [programsFrom_first_blank hfound hblank hfirst, Nat.add_comm]
      exact .emptyPart hfound hblank hfirst
  · intro h
    cases h with
    | emptyPart hfound hblank hfirst =>
        rw [programsFrom_first_blank hfound hblank hfirst, Nat.add_comm]
    | programs hfilled => exact programsFrom_filled hfilled 1

end SampleForge
