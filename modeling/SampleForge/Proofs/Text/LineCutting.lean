import Mathlib.Tactic
import SampleForge.Text.Lines

/-!
# Cutting at a line feed

A line feed ends whatever stands in front of it, so the lines of a text are those of the part up to
a line feed followed by those of the rest: `lines_append_feed`.  A part without line feeds and
carriage returns is `Clean`; it is one line, `lines_append_feed_of_clean`.
-/

namespace SampleForge.Text

/-- No character can end a line or get lost at a line end. -/
def Clean (line : List Char) : Prop :=
  '\n' ∉ line ∧ '\r' ∉ line

instance (line : List Char) : Decidable (Clean line) :=
  inferInstanceAs (Decidable (_ ∧ _))

theorem clean_iff {line : List Char} : Clean line ↔ ∀ c ∈ line, c ≠ '\n' ∧ c ≠ '\r' := by
  constructor
  · rintro ⟨hfeed, hreturn⟩ c hc
    exact ⟨fun h => hfeed (h ▸ hc), fun h => hreturn (h ▸ hc)⟩
  · intro h
    exact ⟨fun hfeed => (h _ hfeed).1 rfl, fun hreturn => (h _ hreturn).2 rfl⟩

theorem Clean.append {line line' : List Char} (h : Clean line) (h' : Clean line') :
    Clean (line ++ line') := by
  refine clean_iff.2 fun c hc => ?_
  rcases List.mem_append.1 hc with hc | hc
  · exact clean_iff.1 h c hc
  · exact clean_iff.1 h' c hc

theorem consLine_ne_nil (c : Char) (ls : List (List Char)) : consLine c ls ≠ [] := by
  cases ls <;> simp [consLine]

theorem consLine_append {c : Char} {ls : List (List Char)} (hne : ls ≠ [])
    (rest : List (List Char)) : consLine c (ls ++ rest) = consLine c ls ++ rest := by
  cases ls with
  | nil => contradiction
  | cons l ls => rfl

/-- Lines that are already closed take no part in the cut. -/
theorem foldr_lineStep_closed (cs : List Char) (rest : List (List Char)) :
    ∃ flag ls, ls ≠ [] ∧ cs.foldr lineStep (true, [[]]) = (flag, ls) ∧
      cs.foldr lineStep (true, [] :: rest) = (flag, ls ++ rest) := by
  -- The open line is never missing, so a character joins it on both sides alike.
  induction cs with
  | nil => exact ⟨true, [[]], by simp, rfl, rfl⟩
  | cons c cs ih =>
      obtain ⟨flag, ls, hne, hshort, hlong⟩ := ih
      simp only [List.foldr_cons, hshort, hlong, lineStep]
      by_cases hfeed : c = '\n'
      · exact ⟨true, [] :: ls, by simp, by rw [if_pos hfeed], by rw [if_pos hfeed]; rfl⟩
      · rw [if_neg hfeed, if_neg hfeed]
        by_cases hreturn : c = '\r' ∧ flag = true
        · exact ⟨false, ls, hne, by rw [if_pos hreturn], by rw [if_pos hreturn]⟩
        · rw [if_neg hreturn, if_neg hreturn]
          exact ⟨false, consLine c ls, consLine_ne_nil c ls, rfl,
            by rw [consLine_append hne]⟩

/-- The cut at a line feed. -/
theorem lines_append_feed (cs ds : List Char) :
    lines (cs ++ '\n' :: ds) = lines (cs ++ ['\n']) ++ lines ds := by
  obtain ⟨flag, ls, -, hshort, hlong⟩ := foldr_lineStep_closed cs (lines ds)
  have hopen : lines (cs ++ ['\n']) = ls := by
    unfold lines
    rw [List.foldr_append]
    exact congrArg Prod.snd hshort
  have hall : lines (cs ++ '\n' :: ds) = ls ++ lines ds := by
    have hstep : lineStep '\n' (ds.foldr lineStep (false, [])) = (true, [] :: lines ds) := by
      simp [lineStep, lines]
    conv_lhs => unfold lines
    rw [List.foldr_append, List.foldr_cons, hstep]
    exact congrArg Prod.snd hlong
  rw [hall, hopen]

/-- A part without line feeds and carriage returns is one line. -/
theorem lines_feed_of_clean {line : List Char} (hclean : Clean line) :
    lines (line ++ ['\n']) = [line] := by
  induction line with
  | nil => simp
  | cons c line ih =>
      obtain ⟨hfeed, hreturn⟩ := clean_iff.1 hclean c List.mem_cons_self
      have hrest : Clean line :=
        clean_iff.2 fun d hd => clean_iff.1 hclean d (List.mem_cons_of_mem c hd)
      rw [List.cons_append, lines_cons_of_ne hfeed fun h => hreturn h.1, ih hrest]
      rfl

theorem lines_append_feed_of_clean {line : List Char} (hclean : Clean line) (rest : List Char) :
    lines (line ++ '\n' :: rest) = line :: lines rest := by
  rw [lines_append_feed, lines_feed_of_clean hclean]
  rfl

end SampleForge.Text
