import Mathlib.Data.List.DropRight
import Mathlib.Tactic
import SampleForge.Proofs.Text.LineCutting
import SampleForge.Proofs.Text.Trimming

/-!
# Lines with their carriage returns

A text is its raw lines with a line feed between any two of them, and a raw line may end in a carriage
return.  One such return belongs to the line end, so the lines of a text with a line feed behind it are its
raw lines without that return: `lines_append_feed_eq_map`.  Without the line feed behind it a text has
the same lines, but for an empty one at the end or a carriage return on the last: `lines_append_feed_cases`.

Trimming a text takes away raw lines at its ends and white space from the first and the last one that stay.
Up to white space every raw line of the trimmed text is one of the text: `exists_rawLine_of_trim`.
-/

namespace SampleForge.Text

section Splitting

variable {α : Type} {p : α → Bool}

/-- The parts of a split hold what is in the list and no separator. -/
theorem mem_of_mem_splitOnP {xs part : List α} (h : part ∈ xs.splitOnP p) {x : α} (hx : x ∈ part) :
    x ∈ xs ∧ p x = false := by
  induction xs generalizing part with
  | nil =>
      obtain rfl : part = [] := by simpa using h
      contradiction
  | cons y xs ih =>
      rw [List.splitOnP_cons_eq_if_modifyHead] at h
      obtain ⟨first, rest, hsplit⟩ := List.exists_cons_of_ne_nil (List.splitOnP_ne_nil p xs)
      have hlater : ∀ other ∈ first :: rest, x ∈ other → x ∈ y :: xs ∧ p x = false := by
        intro other hother hmem
        rw [← hsplit] at hother
        exact ⟨List.mem_cons_of_mem y (ih hother hmem).1, (ih hother hmem).2⟩
      rw [hsplit] at h
      by_cases hy : p y = true
      · rw [if_pos hy] at h
        rcases List.mem_cons.1 h with rfl | h
        · contradiction
        · exact hlater part h hx
      · rw [if_neg hy, List.modifyHead_cons] at h
        rcases List.mem_cons.1 h with rfl | h
        · rcases List.mem_cons.1 hx with rfl | hx
          · exact ⟨List.mem_cons_self, Bool.eq_false_of_not_eq_true hy⟩
          · exact hlater first List.mem_cons_self hx
        · exact hlater part (List.mem_cons_of_mem first h) hx

/-- What comes at the end of a list goes to the last part, unless it is a separator. -/
theorem exists_splitOnP_concat (p : α → Bool) (xs : List α) :
    ∃ before last, xs.splitOnP p = before ++ [last] ∧
      ∀ x, p x = false → (xs ++ [x]).splitOnP p = before ++ [last ++ [x]] := by
  induction xs with
  | nil =>
      refine ⟨[], [], rfl, fun x hx => ?_⟩
      exact List.splitOnP_eq_singleton (by simpa using hx)
  | cons y xs ih =>
      obtain ⟨before, last, hsplit, hconcat⟩ := ih
      simp only [List.cons_append, List.splitOnP_cons_eq_if_modifyHead, hsplit]
      by_cases hy : p y = true
      · refine ⟨[] :: before, last, by rw [if_pos hy]; rfl, fun x hx => ?_⟩
        rw [if_pos hy, hconcat x hx]
        rfl
      · simp only [if_neg hy]
        cases before with
        | nil => exact ⟨[], y :: last, rfl, fun x hx => by rw [hconcat x hx]; rfl⟩
        | cons first before =>
            exact ⟨(y :: first) :: before, last, rfl, fun x hx => by rw [hconcat x hx]; rfl⟩

end Splitting

/-! ## Raw lines -/

/-- What stands between the line feeds of a text. -/
def rawLines (cs : List Char) : List (List Char) :=
  cs.splitOn '\n'

/-- A raw line without a carriage return at its end. -/
def withoutReturn (line : List Char) : List Char :=
  if line.getLast? = some '\r' then line.dropLast else line

/-- A text without the carriage return directly before each line feed. -/
def withoutReturns : List Char → List Char
  | [] => []
  | c :: cs =>
    if c = '\r' ∧ cs.head? = some '\n' then withoutReturns cs else c :: withoutReturns cs

theorem rawLines_eq_splitOnP (cs : List Char) : rawLines cs = cs.splitOnP (· == '\n') :=
  List.splitOn_eq_splitOnP

theorem feed_not_mem_rawLine {cs line : List Char} (h : line ∈ rawLines cs) : '\n' ∉ line := by
  intro hfeed
  rw [rawLines_eq_splitOnP] at h
  exact absurd (mem_of_mem_splitOnP h hfeed).2 (by decide)

/-- A carriage return at the end is white space. -/
theorem trim_withoutReturn (line : List Char) : trim (withoutReturn line) = trim line := by
  unfold withoutReturn
  split
  · next hreturn =>
      have hline : line = line.dropLast ++ ['\r'] :=
        (List.dropLast_append_getLast? '\r' hreturn).symm
      have hblank : allBlank ['\r'] = true := by decide
      conv_rhs => rw [hline, trim_append_of_allBlank hblank]
  · rfl

theorem withoutReturn_cons {c : Char} {line : List Char} (h : c = '\r' → line ≠ []) :
    withoutReturn (c :: line) = c :: withoutReturn line := by
  cases line with
  | nil =>
      have hc : c ≠ '\r' := fun heq => h heq rfl
      simp [withoutReturn, hc]
  | cons d line =>
      unfold withoutReturn
      rw [List.getLast?_cons_cons]
      split
      · rfl
      · rfl

/-- Whatever stands in front of a line feed is one line, whose carriage return belongs to its end. -/
theorem lines_feed_of_not_mem {line : List Char} (hline : '\n' ∉ line) :
    lines (line ++ ['\n']) = [withoutReturn line] := by
  induction line with
  | nil => simp [withoutReturn]
  | cons c line ih =>
      obtain ⟨hfeed, hrest⟩ := not_or.1 (mt List.mem_cons.2 hline)
      by_cases hreturn : c = '\r' ∧ (line ++ ['\n']).head? = some '\n'
      · -- Only an empty rest lets the line feed come next.
        obtain ⟨rfl, hhead⟩ := hreturn
        obtain rfl : line = [] := by
          cases line with
          | nil => rfl
          | cons d line =>
              obtain rfl : d = '\n' := by simpa using hhead
              exact absurd List.mem_cons_self hrest
        decide
      · rw [List.cons_append, lines_cons_of_ne (Ne.symm hfeed) hreturn, ih hrest,
          withoutReturn_cons]
        · rfl
        · rintro rfl rfl
          exact hreturn ⟨rfl, rfl⟩

theorem lines_append_feed_of_not_mem {line : List Char} (hline : '\n' ∉ line) (rest : List Char) :
    lines (line ++ '\n' :: rest) = withoutReturn line :: lines rest := by
  rw [lines_append_feed, lines_feed_of_not_mem hline]
  rfl

theorem lines_intercalate_append_feed {raws : List (List Char)} (hne : raws ≠ [])
    (hraws : ∀ line ∈ raws, '\n' ∉ line) :
    lines (List.intercalate ['\n'] raws ++ ['\n']) = raws.map withoutReturn := by
  induction raws with
  | nil => contradiction
  | cons line raws ih =>
      have hline := hraws line List.mem_cons_self
      cases raws with
      | nil =>
          rw [List.intercalate_singleton, lines_feed_of_not_mem hline]
          rfl
      | cons next raws =>
          have hrest := ih (List.cons_ne_nil next raws)
            (fun other hother => hraws other (List.mem_cons_of_mem line hother))
          rw [List.intercalate_cons_cons, List.append_assoc, List.append_assoc,
            List.singleton_append, lines_append_feed_of_not_mem hline, hrest]
          rfl

/-- With a line feed behind it a text has its raw lines as lines. -/
theorem lines_append_feed_eq_map (cs : List Char) :
    lines (cs ++ ['\n']) = (rawLines cs).map withoutReturn := by
  have hlines := lines_intercalate_append_feed (List.splitOn_ne_nil '\n' cs)
    fun _ => feed_not_mem_rawLine
  rwa [List.intercalate_splitOn] at hlines

/-- A text without a line feed is one line, or none if it is empty. -/
theorem lines_of_not_mem {line : List Char} (hline : '\n' ∉ line) (hne : line ≠ []) :
    lines line = [line] := by
  induction line with
  | nil => contradiction
  | cons c line ih =>
      obtain ⟨hfeed, hrest⟩ := not_or.1 (mt List.mem_cons.2 hline)
      have hreturn : ¬ (c = '\r' ∧ line.head? = some '\n') := fun h =>
        hrest (List.mem_of_mem_head? h.2)
      rw [lines_cons_of_ne (Ne.symm hfeed) hreturn]
      cases line with
      | nil => rfl
      | cons d line =>
          rw [ih hrest (List.cons_ne_nil d line)]
          rfl

/-- A line feed behind a text ends its last line or makes an empty one. -/
theorem lines_append_feed_cases (cs : List Char) :
    lines (cs ++ ['\n']) = lines cs ++ [[]] ∨
      ∃ before last, lines cs = before ++ [last] ∧
        lines (cs ++ ['\n']) = before ++ [withoutReturn last] := by
  -- The text is cut behind its last line feed.
  let last := cs.rtakeWhile (· != '\n')
  have hcut : cs.rdropWhile (· != '\n') ++ last = cs := List.rdropWhile_append_rtakeWhile
  have hlast : '\n' ∉ last := fun hmem => by
    have hne := List.mem_rtakeWhile_imp hmem
    simp at hne
  have happend : ∀ rest, lines (cs.rdropWhile (· != '\n') ++ rest) =
      lines (cs.rdropWhile (· != '\n')) ++ lines rest := by
    intro rest
    by_cases hne : cs.rdropWhile (· != '\n') = []
    · rw [hne]
      rfl
    · have hfeed : (cs.rdropWhile (· != '\n')).getLast hne = '\n' := by
        have hnot := List.rdropWhile_last_not (· != '\n') cs hne
        simpa using hnot
      rw [← List.dropLast_append_getLast hne, hfeed, List.append_assoc, List.singleton_append,
        lines_append_feed]
  rw [← hcut, List.append_assoc, happend, happend, lines_feed_of_not_mem hlast]
  by_cases hempty : last = []
  · left
    rw [hempty, lines_nil, List.append_nil]
    rfl
  · right
    exact ⟨lines (cs.rdropWhile (· != '\n')), last, by rw [lines_of_not_mem hlast hempty], rfl⟩

/-- Up to white space the lines of a text are among its raw lines. -/
theorem exists_rawLine_of_line {cs line : List Char} (h : line ∈ lines cs) :
    ∃ raw ∈ rawLines cs, trim raw = trim line := by
  have hline : ∃ other ∈ lines (cs ++ ['\n']), trim other = trim line := by
    rcases lines_append_feed_cases cs with hlines | ⟨before, last, hlines, hfeed⟩
    · rw [hlines]
      exact ⟨line, List.mem_append_left _ h, rfl⟩
    · rw [hlines] at h
      rw [hfeed]
      rcases List.mem_append.1 h with h | h
      · exact ⟨line, List.mem_append_left _ h, rfl⟩
      · rw [List.mem_singleton.1 h]
        exact ⟨withoutReturn last, by simp, trim_withoutReturn last⟩
  obtain ⟨other, hother, htrim⟩ := hline
  rw [lines_append_feed_eq_map] at hother
  obtain ⟨raw, hraw, rfl⟩ := List.mem_map.1 hother
  exact ⟨raw, hraw, (trim_withoutReturn raw).symm.trans htrim⟩

/-! ## Deleting carriage returns -/

theorem withoutReturns_cons_of_not {c : Char} {cs : List Char}
    (h : ¬ (c = '\r' ∧ cs.head? = some '\n')) :
    withoutReturns (c :: cs) = c :: withoutReturns cs :=
  if_neg h

/-- Nothing is deleted at a seam that does not part a carriage return from its line feed. -/
theorem withoutReturns_append {cs ds : List Char}
    (h : cs.getLast? = some '\r' → ds.head? ≠ some '\n') :
    withoutReturns (cs ++ ds) = withoutReturns cs ++ withoutReturns ds := by
  induction cs with
  | nil => rfl
  | cons c cs ih =>
      cases cs with
      | nil =>
          have hseam : ¬ (c = '\r' ∧ ds.head? = some '\n') := by
            rintro ⟨rfl, hhead⟩
            exact h rfl hhead
          rw [List.singleton_append, withoutReturns_cons_of_not hseam,
            withoutReturns_cons_of_not (by simp)]
          rfl
      | cons d cs =>
          have hrest := ih (by rwa [List.getLast?_cons_cons] at h)
          have hstep : ∀ rest, withoutReturns (c :: d :: rest) =
              if c = '\r' ∧ d = '\n' then withoutReturns (d :: rest)
              else c :: withoutReturns (d :: rest) := by
            intro rest
            simp only [withoutReturns, List.head?_cons, Option.some.injEq]
          rw [List.cons_append] at hrest
          rw [List.cons_append, List.cons_append, hstep, hstep, hrest]
          split
          · rfl
          · rfl

/-- A text without carriage returns before line feeds stays as it is. -/
theorem withoutReturns_eq_self {cs : List Char} (h : ¬ ['\r', '\n'] <:+: cs) :
    withoutReturns cs = cs := by
  induction cs with
  | nil => rfl
  | cons c cs ih =>
      have hrest : ¬ ['\r', '\n'] <:+: cs := fun hpair =>
        h (hpair.trans (List.suffix_cons c cs).isInfix)
      rw [withoutReturns_cons_of_not, ih hrest]
      rintro ⟨rfl, hhead⟩
      obtain ⟨rest, rfl⟩ := List.head?_eq_some_iff.1 hhead
      exact h ⟨[], rest, rfl⟩

/-- A trimmed text keeps its first and its last character. -/
theorem Trimmed.withoutReturns {cs : List Char} (h : Trimmed cs) :
    Trimmed (withoutReturns cs) := by
  constructor
  · cases cs with
    | nil => simp [Text.withoutReturns]
    | cons c cs =>
        have hc : isBlank c = false := h.first c rfl
        rw [withoutReturns_cons_of_not]
        · simpa using hc
        · rintro ⟨rfl, -⟩
          exact absurd hc (by decide)
  · cases cs using List.reverseRecOn with
    | nil => simp [Text.withoutReturns]
    | append_singleton cs c =>
        have hc : isBlank c = false := h.last c (by simp)
        rw [withoutReturns_append]
        · have hsingle : Text.withoutReturns [c] = [c] := withoutReturns_cons_of_not (by simp)
          rw [hsingle, List.getLast?_concat]
          simpa using hc
        · intro _ hfeed
          obtain rfl : c = '\n' := by simpa using hfeed
          exact absurd hc (by decide)

/-! ## Raw lines of a trimmed text -/

/-- Blank characters in front leave a trimmed text alone. -/
theorem trim_append_left_of_allBlank {before : List Char} (hbefore : allBlank before = true)
    (cs : List Char) : trim (before ++ cs) = trim cs := by
  rw [trim, trimStart_append_of_allBlank hbefore]
  rfl

section Around

variable {c : Char} {cs line : List Char}

/-- A blank character in front of a text makes an empty line or stands in front of the first one. -/
theorem exists_rawLine_cons (hc : isBlank c = true) (h : line ∈ rawLines cs) :
    ∃ raw ∈ rawLines (c :: cs), trim raw = trim line := by
  obtain ⟨first, rest, hsplit⟩ := List.exists_cons_of_ne_nil (List.splitOn_ne_nil '\n' cs)
  have hblank : allBlank [c] = true := by simpa [allBlank] using hc
  unfold rawLines at h ⊢
  rw [hsplit] at h
  rw [List.splitOn_cons_eq_if_modifyHead, hsplit]
  by_cases hfeed : (c == '\n') = true
  · rw [if_pos hfeed]
    exact ⟨line, List.mem_cons_of_mem [] h, rfl⟩
  · rw [if_neg hfeed, List.modifyHead_cons]
    rcases List.mem_cons.1 h with rfl | h
    · exact ⟨c :: line, List.mem_cons_self, trim_append_left_of_allBlank hblank line⟩
    · exact ⟨line, List.mem_cons_of_mem _ h, rfl⟩

/-- A blank character behind a text makes an empty line or stands behind the last one. -/
theorem exists_rawLine_concat (hc : isBlank c = true) (h : line ∈ rawLines cs) :
    ∃ raw ∈ rawLines (cs ++ [c]), trim raw = trim line := by
  obtain ⟨before, last, hsplit, hconcat⟩ := exists_splitOnP_concat (· == '\n') cs
  have hblank : allBlank [c] = true := by simpa [allBlank] using hc
  rw [rawLines_eq_splitOnP] at h ⊢
  by_cases hfeed : (c == '\n') = true
  · have hsplit' : (cs ++ [c]).splitOnP (· == '\n') = cs.splitOnP (· == '\n') ++ [[]] :=
      List.splitOnP_append_cons cs [] hfeed
    rw [hsplit']
    exact ⟨line, List.mem_append_left _ h, rfl⟩
  · rw [hsplit] at h
    rw [hconcat c (Bool.eq_false_of_not_eq_true hfeed)]
    rcases List.mem_append.1 h with h | h
    · exact ⟨line, List.mem_append_left _ h, rfl⟩
    · rw [List.mem_singleton.1 h]
      exact ⟨last ++ [c], by simp, trim_append_of_allBlank hblank last⟩

end Around

/-- Up to white space the raw lines of a text are among those of the text with white space around. -/
theorem exists_rawLine_around {before cs after line : List Char} (hbefore : allBlank before = true)
    (hafter : allBlank after = true) (h : line ∈ rawLines cs) :
    ∃ raw ∈ rawLines (before ++ cs ++ after), trim raw = trim line := by
  have hfront : ∃ raw ∈ rawLines (before ++ cs), trim raw = trim line := by
    induction before with
    | nil => exact ⟨line, h, rfl⟩
    | cons c before ih =>
        obtain ⟨hc, hrest⟩ := Bool.and_eq_true_iff.1 hbefore
        obtain ⟨raw, hraw, htrim⟩ := ih hrest
        obtain ⟨raw', hraw', htrim'⟩ := exists_rawLine_cons hc hraw
        exact ⟨raw', hraw', htrim'.trans htrim⟩
  induction after using List.reverseRecOn with
  | nil =>
      rw [List.append_nil]
      exact hfront
  | append_singleton after c ih =>
      rw [allBlank_append, Bool.and_eq_true] at hafter
      obtain ⟨raw, hraw, htrim⟩ := ih hafter.1
      have hc : isBlank c = true := by simpa [allBlank] using hafter.2
      obtain ⟨raw', hraw', htrim'⟩ := exists_rawLine_concat hc hraw
      rw [← List.append_assoc]
      exact ⟨raw', hraw', htrim'.trans htrim⟩

theorem exists_rawLine_of_trim {cs line : List Char} (h : line ∈ rawLines (trim cs)) :
    ∃ raw ∈ rawLines cs, trim raw = trim line := by
  obtain ⟨before, after, hbefore, hafter, hcs⟩ := exists_blank_around_trim cs
  obtain ⟨raw, hraw, htrim⟩ := exists_rawLine_around hbefore hafter h
  rw [← hcs] at hraw
  exact ⟨raw, hraw, htrim⟩

end SampleForge.Text
