import Mathlib.Tactic
import SampleForge.Proofs.Corpus.Acceptance

/-!
# Edits that leave the meaning alone

A file is edited at its raw lines: the texts between its line feeds, which may end in a carriage return.
`HeaderEdit` and `BodyEdit` are the changes of a header and of a body that mean nothing, and `HarmlessEdit`
puts them into a file, together with white space around the title and line feeds that become a carriage
return and a line feed.  What a single line is for the reader hangs on the line without the white space
around it, so every edit can be looked at by itself.

A header is read for the values of its keys, `HeaderEdit.headerValues_eq`, and a body for the texts of its
parts, `BodyEdit.partTexts_eq`.  With the same values and texts a file is accepted with the same result;
`readCorpus_ok_of_edits` says so after any number of edits.
-/

namespace SampleForge

open Text

/-! ## The edits -/

/-- Changes of the lines of a header. -/
inductive HeaderEdit : List Line → List Line → Prop
  /-- A line gets other white space at its ends. -/
  | respace {before after : List Line} {line line' : Line} (same : trim line' = trim line) :
      HeaderEdit (before ++ line :: after) (before ++ line' :: after)
  /-- A line that carries no key is put in. -/
  | insert {before after : List Line} {line : Line} (hash : isHashLine line = true)
      (other : ∀ key value, ¬ Carries key value line) :
      HeaderEdit (before ++ after) (before ++ line :: after)
  /-- Two neighbours change places, unless both carry the same key. -/
  | swap {before after : List Line} {first second : Line}
      (different : ∀ key value value', Carries key value first → ¬ Carries key value' second) :
      HeaderEdit (before ++ first :: second :: after) (before ++ second :: first :: after)

/-- Changes of the lines behind a header. -/
inductive BodyEdit : List Line → List Line → Prop
  /-- A separator gets other white space at its ends. -/
  | respace {before after : List Line} {line line' : Line} (separator : isSeparator line = true)
      (same : trim line' = trim line) : BodyEdit (before ++ line :: after) (before ++ line' :: after)
  /-- A blank line is put directly behind the header. -/
  | blankFirst {body : List Line} {line : Line} (blank : allBlank line = true) :
      BodyEdit body (line :: body)
  /-- A blank line is put in front of a separator. -/
  | blankBefore {before after : List Line} {next line : Line} (separator : isSeparator next = true)
      (blank : allBlank line = true) :
      BodyEdit (before ++ next :: after) (before ++ line :: next :: after)
  /-- A blank line is put behind a separator. -/
  | blankBehind {before after : List Line} {previous line : Line}
      (separator : isSeparator previous = true) (blank : allBlank line = true) :
      BodyEdit (before ++ previous :: after) (before ++ previous :: line :: after)
  /-- A line feed and a blank line are put at the end of the text. -/
  | blankLast {body : List Line} {line : Line} (blank : allBlank line = true) :
      BodyEdit body (body ++ [line])
  /-- A blank line is put behind the line feed at the end of the text. -/
  | blankEnd {before : List Line} {line : Line} (blank : allBlank line = true) :
      BodyEdit (before ++ [[]]) (before ++ [line])

/-- Changes of the raw lines of a file. -/
inductive HarmlessEdit : List Line → List Line → Prop
  /-- The title gets other white space at its ends. -/
  | title {title title' : Line} {rest : List Line} (same : trim title' = trim title) :
      HarmlessEdit (title :: rest) (title' :: rest)
  /-- A line feed gets a carriage return in front, unless it has one. -/
  | lineEnd {before after : List Line} {line next : Line} (plain : line.getLast? ≠ some '\r') :
      HarmlessEdit (before ++ line :: next :: after) (before ++ (line ++ ['\r']) :: next :: after)
  | header {title : Line} {header header' body : List Line} (run : HeaderRun header body)
      (edit : HeaderEdit header header') :
      HarmlessEdit (title :: (header ++ body)) (title :: (header' ++ body))
  | body {title : Line} {header body body' : List Line} (run : HeaderRun header body)
      (edit : BodyEdit body body') :
      HarmlessEdit (title :: (header ++ body)) (title :: (header ++ body'))

/-- One edit leads from a text to another one. -/
def Edited (text text' : String) : Prop :=
  HarmlessEdit (rawLines text.toList) (rawLines text'.toList)

theorem edited_of {text text' : String} {raws raws' : List Line}
    (h : rawLines text.toList = raws) (h' : rawLines text'.toList = raws')
    (hedit : HarmlessEdit raws raws') : Edited text text' := by
  rw [Edited, h, h']
  exact hedit

/-! ## Headers -/

namespace HeaderEdit

variable {header header' : List Line}

/-- The values of a key stay, in their order. -/
theorem headerValues_eq (h : HeaderEdit header header') (key : HeaderKey) :
    headerValues key header = headerValues key header' := by
  unfold headerValues
  cases h with
  | respace same =>
      simp only [List.filterMap_append, List.filterMap_cons, headerValue?_congr same]
  | insert hash other =>
      have hnone := headerValue?_eq_none_iff.2 (other key)
      simp only [List.filterMap_append, List.filterMap_cons, hnone]
  | @swap before after first second different =>
      simp only [List.filterMap_append, List.filterMap_cons]
      cases hfirst : headerValue? key first with
      | none => rfl
      | some value =>
          cases hsecond : headerValue? key second with
          | none => rfl
          | some value' =>
              -- Both lines would carry the key.
              exact absurd (headerValue?_eq_some_iff.1 hsecond)
                (different key value value' (headerValue?_eq_some_iff.1 hfirst))

theorem hashes (h : HeaderEdit header header') (hheader : ∀ line ∈ header, isHashLine line = true) :
    ∀ line ∈ header', isHashLine line = true := by
  cases h with
  | respace same =>
      simp only [List.forall_mem_append, List.forall_mem_cons, isHashLine_congr same] at hheader ⊢
      exact hheader
  | insert hash other =>
      simp only [List.forall_mem_append, List.forall_mem_cons] at hheader ⊢
      exact ⟨hheader.1, hash, hheader.2⟩
  | swap different =>
      simp only [List.forall_mem_append, List.forall_mem_cons] at hheader ⊢
      exact ⟨hheader.1, hheader.2.2.1, hheader.2.1, hheader.2.2.2⟩

end HeaderEdit

/-! ## Bodies -/

namespace BodyEdit

variable {body body' : List Line}

/-- The texts of the parts stay. -/
theorem partTexts_eq (h : BodyEdit body body') : partTexts body = partTexts body' := by
  cases h with
  | respace separator same =>
      rw [partTexts_append_cons separator,
        partTexts_append_cons ((isSeparator_congr same).trans separator)]
  | blankFirst blank => rw [partTexts_cons_of_allBlank blank]
  | @blankBefore before after next line separator blank =>
      rw [← List.singleton_append (x := line), ← List.append_assoc,
        partTexts_append_cons separator, partTexts_append_cons separator,
        partTexts_concat_of_allBlank blank]
  | blankBehind separator blank =>
      rw [partTexts_append_cons separator, partTexts_append_cons separator,
        partTexts_cons_of_allBlank blank]
  | blankLast blank => rw [partTexts_concat_of_allBlank blank]
  | blankEnd blank =>
      rw [partTexts_concat_of_allBlank blank, partTexts_concat_of_allBlank rfl]

/-- A body never gets to begin with a header line. -/
theorem stops (h : BodyEdit body body') (hbody : ∀ line ∈ body.head?, isHashLine line = false) :
    ∀ line ∈ body'.head?, isHashLine line = false := by
  have hfirst : ∀ {before : List Line} (rest : List Line) {rest' : List Line},
      (∀ line ∈ (before ++ rest).head?, isHashLine line = false) →
      (∀ line ∈ rest'.head?, isHashLine line = false) →
      ∀ line ∈ (before ++ rest').head?, isHashLine line = false := by
    intro before rest rest' hold hnew
    cases before with
    | nil => exact hnew
    | cons first before => exact hold
  cases h with
  | respace separator same =>
      refine hfirst _ hbody fun line hline => ?_
      obtain rfl := Option.some.inj hline
      exact isHashLine_of_isSeparator ((isSeparator_congr same).trans separator)
  | blankFirst blank =>
      intro line hline
      obtain rfl := Option.some.inj hline
      exact isHashLine_of_allBlank blank
  | blankBefore separator blank =>
      refine hfirst _ hbody fun line hline => ?_
      obtain rfl := Option.some.inj hline
      exact isHashLine_of_allBlank blank
  | blankBehind separator blank =>
      refine hfirst _ hbody fun line hline => ?_
      obtain rfl := Option.some.inj hline
      exact isHashLine_of_isSeparator separator
  | blankLast blank =>
      refine hfirst [] (by rwa [List.append_nil]) fun line hline => ?_
      obtain rfl := Option.some.inj hline
      exact isHashLine_of_allBlank blank
  | blankEnd blank =>
      refine hfirst _ hbody fun line hline => ?_
      obtain rfl := Option.some.inj hline
      exact isHashLine_of_allBlank blank

/-- The edit is one of the lines without their carriage returns as well. -/
theorem map_withoutReturn (h : BodyEdit body body') :
    BodyEdit (body.map withoutReturn) (body'.map withoutReturn) := by
  have hseparator : ∀ {line : Line}, isSeparator line = true →
      isSeparator (withoutReturn line) = true := fun {line} h =>
    (isSeparator_congr (trim_withoutReturn line)).trans h
  have hblank : ∀ {line : Line}, allBlank line = true → allBlank (withoutReturn line) = true := by
    intro line h
    rw [← trim_eq_nil_iff, trim_withoutReturn, trim_eq_nil_iff]
    exact h
  cases h with
  | @respace before after line line' separator same =>
      rw [List.map_append, List.map_append]
      refine .respace (hseparator separator) ?_
      rw [trim_withoutReturn, trim_withoutReturn, same]
  | blankFirst blank => exact .blankFirst (hblank blank)
  | blankBefore separator blank =>
      rw [List.map_append, List.map_append]
      exact .blankBefore (hseparator separator) (hblank blank)
  | blankBehind separator blank =>
      rw [List.map_append, List.map_append]
      exact .blankBehind (hseparator separator) (hblank blank)
  | blankLast blank =>
      rw [List.map_append]
      exact .blankLast (hblank blank)
  | blankEnd blank =>
      rw [List.map_append, List.map_append]
      exact .blankEnd (hblank blank)

end BodyEdit

/-! ## Files -/

theorem headerValues_map_withoutReturn (key : HeaderKey) (header : List Line) :
    headerValues key (header.map withoutReturn) = headerValues key header := by
  rw [headerValues, List.filterMap_map]
  exact List.filterMap_congr fun line _ => headerValue?_congr (trim_withoutReturn line) key

theorem HeaderRun.map_withoutReturn {header body : List Line} (h : HeaderRun header body) :
    HeaderRun (header.map withoutReturn) (body.map withoutReturn) := by
  constructor
  · refine List.forall_mem_map.2 fun line hline => ?_
    rw [isHashLine_congr (trim_withoutReturn line)]
    exact h.hashes line hline
  · cases body with
    | nil => simp
    | cons first body =>
        intro line hline
        obtain rfl := Option.some.inj hline
        rw [isHashLine_congr (trim_withoutReturn first)]
        exact h.stops first rfl

theorem withoutReturn_append_return (line : Line) : withoutReturn (line ++ ['\r']) = line := by
  simp [withoutReturn]

/-- One edit keeps the result of a file that is accepted. -/
theorem HarmlessEdit.readCorpusLines_ok {raws raws' : List Line} {corpus : Corpus}
    (hedit : HarmlessEdit raws raws')
    (h : readCorpusLines (raws.map withoutReturn) = .ok corpus) :
    readCorpusLines (raws'.map withoutReturn) = .ok corpus := by
  cases hedit with
  | @title title title' rest same =>
      have hrun := headerRun_cut (rest.map withoutReturn)
      have htitle : trim (withoutReturn title) = trim (withoutReturn title') := by
        rw [trim_withoutReturn, trim_withoutReturn, same]
      rw [List.map_cons, ← List.takeWhile_append_dropWhile (p := isHashLine)
        (l := rest.map withoutReturn)] at h ⊢
      exact (readCorpusLines_ok_congr hrun hrun htitle (fun _ => rfl) rfl _).1 h
  | @lineEnd before after line next plain =>
      have hline : withoutReturn line = line := if_neg plain
      rw [List.map_append, List.map_cons, hline] at h
      rw [List.map_append, List.map_cons, withoutReturn_append_return]
      exact h
  | @header title header header' body run edit =>
      have hrun' : HeaderRun header' body := ⟨edit.hashes run.hashes, run.stops⟩
      rw [List.map_cons, List.map_append] at h ⊢
      refine (readCorpusLines_ok_congr run.map_withoutReturn hrun'.map_withoutReturn rfl
        (fun key => ?_) rfl _).1 h
      rw [headerValues_map_withoutReturn, headerValues_map_withoutReturn, edit.headerValues_eq]
  | @body title header body body' run edit =>
      have hrun' : HeaderRun header body' := ⟨run.hashes, edit.stops run.stops⟩
      rw [List.map_cons, List.map_append] at h ⊢
      exact (readCorpusLines_ok_congr run.map_withoutReturn hrun'.map_withoutReturn rfl
        (fun _ => rfl) edit.map_withoutReturn.partTexts_eq _).1 h

theorem readCorpus_ok_of_edited {text text' : String} {corpus : Corpus}
    (hedited : Edited text text') (h : readCorpus text = .ok corpus) :
    readCorpus text' = .ok corpus := by
  rw [readCorpus_ok_iff_rawLines] at h ⊢
  exact HarmlessEdit.readCorpusLines_ok hedited h

/-- After any number of edits an accepted file is accepted with the same header and programs. -/
theorem readCorpus_ok_of_edits {text text' : String} {corpus : Corpus}
    (hedits : Relation.ReflTransGen Edited text text') (h : readCorpus text = .ok corpus) :
    readCorpus text' = .ok corpus := by
  induction hedits with
  | refl => exact h
  | tail _ hedited ih => exact readCorpus_ok_of_edited hedited ih

/-- A carriage return, a blank title margin, two header lines the other way round and a blank line in front
of the second separator. -/
theorem readCorpus_ok_of_edits_four :
    let text := titleLine ++ "\n# seed=1\n# count=2\n---\nA\nB\n---\nC"
    let text' := "\t" ++ titleLine ++ "\n# count=2\n# seed=1\n---\nA\r\nB\n \n---\nC"
    readCorpus text = .ok ⟨⟨1, 2⟩, ["A\nB", "C"]⟩ ∧ Relation.ReflTransGen Edited text text' ∧
      readCorpus text' = .ok ⟨⟨1, 2⟩, ["A\nB", "C"]⟩ := by
  intro text text'
  have hread : readCorpus text = .ok ⟨⟨1, 2⟩, ["A\nB", "C"]⟩ := by decide +kernel
  let seedLine : Line := "# seed=1".toList
  let countLine : Line := "# count=2".toList
  let body : List Line := [separatorLine.toList, ['A', '\r'], ['B'], separatorLine.toList, ['C']]
  let ended := titleLine ++ "\n# seed=1\n# count=2\n---\nA\r\nB\n---\nC"
  let titled := "\t" ++ titleLine ++ "\n# seed=1\n# count=2\n---\nA\r\nB\n---\nC"
  let swapped := "\t" ++ titleLine ++ "\n# count=2\n# seed=1\n---\nA\r\nB\n---\nC"
  have hended : Edited text ended := by
    have hedit := @HarmlessEdit.lineEnd [titleLine.toList, seedLine, countLine, separatorLine.toList]
      [separatorLine.toList, ['C']] ['A'] ['B'] (by decide)
    exact edited_of (by decide +kernel) (by decide +kernel) hedit
  have htitled : Edited ended titled := by
    have hedit := @HarmlessEdit.title titleLine.toList ('\t' :: titleLine.toList)
      (seedLine :: countLine :: body) (by decide +kernel)
    exact edited_of (by decide +kernel) (by decide +kernel) hedit
  have hswapped : Edited titled swapped := by
    have hseed : Carries .seed ['1'] seedLine := by
      unfold Carries
      decide +kernel
    have hcount : Carries .count ['2'] countLine := by
      unfold Carries
      decide +kernel
    have hswap : HeaderEdit [seedLine, countLine] [countLine, seedLine] := by
      refine @HeaderEdit.swap [] [] seedLine countLine fun key value value' hfirst hsecond => ?_
      exact absurd ((hseed.unique hfirst).1.trans (hcount.unique hsecond).1.symm) (by decide)
    have hedit := @HarmlessEdit.header ('\t' :: titleLine.toList) _ _ body
      ⟨by decide +kernel, by decide +kernel⟩ hswap
    exact edited_of (by decide +kernel) (by decide +kernel) hedit
  have hblank : Edited swapped text' := by
    have hinsert := @BodyEdit.blankBefore (body.take 3) [['C']] separatorLine.toList [' '] (by decide)
      (by decide)
    have hedit := @HarmlessEdit.body ('\t' :: titleLine.toList) [countLine, seedLine] _ _
      ⟨by decide +kernel, by decide +kernel⟩ hinsert
    exact edited_of (by decide +kernel) (by decide +kernel) hedit
  have hedits : Relation.ReflTransGen Edited text text' :=
    .tail (.tail (.tail (.single hended) htitled) hswapped) hblank
  exact ⟨hread, hedits, readCorpus_ok_of_edits hedits hread⟩

end SampleForge
