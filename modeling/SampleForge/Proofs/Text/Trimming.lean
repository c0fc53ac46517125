import Mathlib.Data.List.DropRight
import Mathlib.Tactic
import SampleForge.Text.Blank

/-!
# What trimming leaves

A list of characters is `Trimmed` when no blank character stands at either end; the empty list is.
Trimming is then determined by its result alone: `trim_eq_iff` says that `trim cs` is the one
trimmed list `middle` for which `cs` is `middle` with blank characters around it.  Later modules
argue from this equivalence and do not open the definition of `trim`.
-/

namespace SampleForge.Text

/-- No blank character stands at an end. -/
structure Trimmed (cs : List Char) : Prop where
  first : ∀ c ∈ cs.head?, isBlank c = false
  last : ∀ c ∈ cs.getLast?, isBlank c = false

theorem trimmed_nil : Trimmed [] :=
  ⟨by simp, by simp⟩

theorem allBlank_iff {cs : List Char} : allBlank cs = true ↔ ∀ c ∈ cs, isBlank c = true :=
  List.all_eq_true

@[simp] theorem allBlank_append {cs ds : List Char} :
    allBlank (cs ++ ds) = (allBlank cs && allBlank ds) :=
  List.all_append

theorem trimEnd_eq_rdropWhile (cs : List Char) : trimEnd cs = cs.rdropWhile isBlank := rfl

/-- Both ends of a trimmed list are as they must be. -/
theorem trimmed_trim (cs : List Char) : Trimmed (trim cs) := by
  constructor
  · intro c hc
    have hprefix : trim cs <+: trimStart cs := List.rdropWhile_prefix isBlank _
    obtain ⟨rest, hrest⟩ := hprefix
    have hhead : (trimStart cs).head? = some c := by
      rw [← hrest, List.head?_append, Option.mem_def.1 hc]
      rfl
    have hnot := List.head?_dropWhile_not isBlank cs
    rw [show cs.dropWhile isBlank = trimStart cs from rfl, hhead] at hnot
    exact hnot
  · intro c hc
    obtain ⟨hne, hlast⟩ := List.mem_getLast?_eq_getLast hc
    have hnot := List.rdropWhile_last_not isBlank (trimStart cs) hne
    rw [hlast]
    exact Bool.eq_false_of_not_eq_true hnot

/-- Only blank characters go. -/
theorem exists_blank_around_trim (cs : List Char) :
    ∃ before after, allBlank before = true ∧ allBlank after = true ∧
      cs = before ++ trim cs ++ after := by
  refine ⟨cs.takeWhile isBlank, (trimStart cs).rtakeWhile isBlank, ?_, ?_, ?_⟩
  · exact allBlank_iff.2 fun c hc => List.mem_takeWhile_imp hc
  · exact allBlank_iff.2 fun c hc => List.mem_rtakeWhile_imp hc
  · rw [List.append_assoc, show trim cs = (trimStart cs).rdropWhile isBlank from rfl,
      List.rdropWhile_append_rtakeWhile]
    exact List.takeWhile_append_dropWhile.symm

theorem trimStart_append_of_allBlank {before : List Char} (hbefore : allBlank before = true)
    (cs : List Char) : trimStart (before ++ cs) = trimStart cs :=
  List.dropWhile_append_of_pos (allBlank_iff.1 hbefore)

theorem trimEnd_append_of_allBlank {after : List Char} (hafter : allBlank after = true)
    (cs : List Char) : trimEnd (cs ++ after) = trimEnd cs := by
  unfold trimEnd
  rw [List.reverse_append, List.dropWhile_append_of_pos]
  intro c hc
  exact allBlank_iff.1 hafter c (List.mem_reverse.1 hc)

theorem trimStart_of_allBlank {cs : List Char} (hcs : allBlank cs = true) :
    trimStart cs = [] := by
  simpa [trimStart] using trimStart_append_of_allBlank hcs []

theorem trimStart_eq_self {cs : List Char} (hfirst : ∀ c ∈ cs.head?, isBlank c = false) :
    trimStart cs = cs := by
  cases cs with
  | nil => rfl
  | cons c rest =>
      have hc : isBlank c = false := hfirst c rfl
      simp [trimStart, hc]

theorem trimEnd_eq_self {cs : List Char} (hlast : ∀ c ∈ cs.getLast?, isBlank c = false) :
    trimEnd cs = cs := by
  rw [trimEnd_eq_rdropWhile, List.rdropWhile_eq_self_iff]
  intro hne
  rw [hlast _ (List.getLast?_eq_some_getLast hne)]
  exact Bool.false_ne_true

/-- The result of trimming, without the way to it. -/
theorem trim_eq_iff {cs middle : List Char} :
    trim cs = middle ↔ Trimmed middle ∧ ∃ before after,
      allBlank before = true ∧ allBlank after = true ∧ cs = before ++ middle ++ after := by
  constructor
  · rintro rfl
    exact ⟨trimmed_trim cs, exists_blank_around_trim cs⟩
  · rintro ⟨⟨hfirst, hlast⟩, before, after, hbefore, hafter, rfl⟩
    rw [trim, List.append_assoc, trimStart_append_of_allBlank hbefore]
    cases middle with
    | nil =>
        -- Nothing stops the blank characters behind from going with those in front.
        rw [List.nil_append, trimStart_of_allBlank hafter]
        rfl
    | cons c rest =>
        rw [trimStart_eq_self (by simpa using hfirst), trimEnd_append_of_allBlank hafter]
        exact trimEnd_eq_self hlast

theorem trim_eq_nil_iff {cs : List Char} : trim cs = [] ↔ allBlank cs = true := by
  rw [trim_eq_iff]
  constructor
  · rintro ⟨-, before, after, hbefore, hafter, rfl⟩
    simp [hbefore, hafter]
  · intro hcs
    exact ⟨trimmed_nil, cs, [], hcs, rfl, by simp⟩

theorem Trimmed.trim_eq {cs : List Char} (h : Trimmed cs) : trim cs = cs :=
  trim_eq_iff.2 ⟨h, [], [], rfl, rfl, by simp⟩

/-- White space behind a text means nothing. -/
theorem trim_append_of_allBlank {after : List Char} (hafter : allBlank after = true)
    (cs : List Char) : trim (cs ++ after) = trim cs := by
  obtain ⟨before, rest, hbefore, hrest, hcs⟩ := exists_blank_around_trim cs
  refine trim_eq_iff.2 ⟨trimmed_trim cs, before, rest ++ after, hbefore, by simp [hrest, hafter], ?_⟩
  rw [← List.append_assoc, ← hcs]

/-- Trimming the end does not change which character stands first. -/
theorem head?_trim (cs : List Char) : (trim cs).head? = (trimStart cs).head? := by
  obtain ⟨before, after, hbefore, hafter, hcs⟩ := exists_blank_around_trim cs
  have hstart : trimStart cs = trimStart (trim cs ++ after) := by
    conv_lhs => rw [hcs, List.append_assoc]
    exact trimStart_append_of_allBlank hbefore _
  rw [hstart]
  cases hmiddle : trim cs with
  | nil =>
      rw [List.nil_append, trimStart_of_allBlank hafter]
  | cons c rest =>
      have hc : isBlank c = false := (trimmed_trim cs).first c (by rw [hmiddle]; rfl)
      rw [trimStart_eq_self (by simpa using hc)]
      rfl

end SampleForge.Text
