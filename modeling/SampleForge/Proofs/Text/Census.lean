import Mathlib.Tactic

/-!
# What occurs in a text

Three ways of looking at a list of characters from the left: how often a pattern occurs, which runs
of digits there are, and how many parentheses are open.  Each comes with the equations by which it
passes over the front of a text.
-/

namespace SampleForge.Text

/-- How often a pattern occurs in a text, overlapping occurrences included. -/
def occurrences (pattern : List Char) : List Char → Nat
  | [] => if pattern.isPrefixOf [] then 1 else 0
  | c :: cs => (if pattern.isPrefixOf (c :: cs) then 1 else 0) + occurrences pattern cs

theorem occurrences_cons_of_ne {first c : Char} (hc : c ≠ first) (pattern cs : List Char) :
    occurrences (first :: pattern) (c :: cs) = occurrences (first :: pattern) cs := by
  have hprefix : (first :: pattern).isPrefixOf (c :: cs) = false := by
    simp [List.isPrefixOf, hc.symm]
  rw [occurrences, hprefix]
  simp

/-- A stretch without the first character of the pattern holds no occurrence. -/
theorem occurrences_append_of_not_mem {first : Char} {cs : List Char} (hcs : first ∉ cs)
    (pattern rest : List Char) :
    occurrences (first :: pattern) (cs ++ rest) = occurrences (first :: pattern) rest := by
  induction cs with
  | nil => rfl
  | cons c cs ih =>
      have hc : c ≠ first := fun h => hcs (h ▸ List.mem_cons_self)
      rw [List.cons_append, occurrences_cons_of_ne hc]
      exact ih fun h => hcs (List.mem_cons_of_mem c h)

/-! ## Runs of digits -/

/-- The maximal runs of digits in a text, from left to right. -/
def digitRuns (cs : List Char) : List (List Char) :=
  (cs.splitOnP fun c => !c.isDigit).filter fun run => !run.isEmpty

@[simp] theorem digitRuns_nil : digitRuns [] = [] := rfl

theorem digitRuns_cons_of_not_digit {c : Char} (hc : c.isDigit = false) (cs : List Char) :
    digitRuns (c :: cs) = digitRuns cs := by
  rw [digitRuns, List.splitOnP_cons_eq_if_modifyHead, hc]
  rfl

theorem digitRuns_append_of_no_digit {cs : List Char} (hcs : ∀ c ∈ cs, c.isDigit = false)
    (rest : List Char) : digitRuns (cs ++ rest) = digitRuns rest := by
  induction cs with
  | nil => rfl
  | cons c cs ih =>
      rw [List.cons_append, digitRuns_cons_of_not_digit (hcs c List.mem_cons_self)]
      exact ih fun d hd => hcs d (List.mem_cons_of_mem c hd)

/-- A run ends where no further digit follows. -/
theorem digitRuns_append {run : List Char} (hne : run ≠ [])
    (hdigits : ∀ c ∈ run, c.isDigit = true) {rest : List Char}
    (hrest : ∀ c ∈ rest.head?, c.isDigit = false) :
    digitRuns (run ++ rest) = run :: digitRuns rest := by
  have hrun : ∀ c ∈ run, (!c.isDigit) = false := fun c hc => by simp [hdigits c hc]
  cases rest with
  | nil =>
      rw [List.append_nil, digitRuns, List.splitOnP_eq_singleton hrun]
      simp [hne]
  | cons c rest =>
      have hc : c.isDigit = false := hrest c rfl
      rw [digitRuns_cons_of_not_digit hc, digitRuns,
        List.splitOnP_append_cons_of_forall_mem hrun c (by simp [hc]),
        List.filter_cons_of_pos (by simpa using hne)]
      rfl

/-! ## Parentheses -/

/-- As many parentheses are closed as opened. -/
def ParensBalanced (cs : List Char) : Prop :=
  cs.count '(' = cs.count ')'

/-- Reading from the left, never more parentheses are closed than opened, and never more than
`depth` are open. -/
def NestedUpTo (depth : Nat) (cs : List Char) : Prop :=
  ∀ before, before <+: cs →
    before.count ')' ≤ before.count '(' ∧ before.count '(' ≤ before.count ')' + depth

theorem ParensBalanced.append {cs ds : List Char} (hcs : ParensBalanced cs)
    (hds : ParensBalanced ds) : ParensBalanced (cs ++ ds) := by
  unfold ParensBalanced at *
  rw [List.count_append, List.count_append, hcs, hds]

theorem ParensBalanced.parenthesize {cs : List Char} (hcs : ParensBalanced cs) :
    ParensBalanced ('(' :: (cs ++ [')'])) := by
  unfold ParensBalanced at *
  simp only [List.count_cons, List.count_append, hcs]
  rfl

theorem parensBalanced_of_not_mem {cs : List Char} (hopen : '(' ∉ cs) (hclose : ')' ∉ cs) :
    ParensBalanced cs := by
  rw [ParensBalanced, List.count_eq_zero_of_not_mem hopen, List.count_eq_zero_of_not_mem hclose]

theorem NestedUpTo.mono {m n : Nat} {cs : List Char} (h : NestedUpTo m cs) (hmn : m ≤ n) :
    NestedUpTo n cs := by
  intro before hbefore
  obtain ⟨hclosed, hopen⟩ := h before hbefore
  exact ⟨hclosed, by omega⟩

theorem nestedUpTo_of_not_mem {cs : List Char} (hopen : '(' ∉ cs) (hclose : ')' ∉ cs)
    (depth : Nat) : NestedUpTo depth cs := by
  intro before hbefore
  have hsub := hbefore.subset
  rw [List.count_eq_zero_of_not_mem fun h => hopen (hsub h),
    List.count_eq_zero_of_not_mem fun h => hclose (hsub h)]
  exact ⟨Nat.le_refl 0, Nat.zero_le _⟩

theorem NestedUpTo.append {depth : Nat} {cs ds : List Char} (hcs : NestedUpTo depth cs)
    (hbalanced : ParensBalanced cs) (hds : NestedUpTo depth ds) : NestedUpTo depth (cs ++ ds) := by
  rintro before ⟨after, hafter⟩
  -- A prefix ends in the first text, or holds all of it, and then it has closed what it opened.
  rcases List.append_eq_append_iff.1 hafter with ⟨middle, hmiddle, -⟩ | ⟨middle, rfl, hrest⟩
  · exact hcs before ⟨middle, hmiddle.symm⟩
  · obtain ⟨hclosed, hopen⟩ := hds middle ⟨after, hrest.symm⟩
    unfold ParensBalanced at hbalanced
    rw [List.count_append, List.count_append]
    omega

theorem NestedUpTo.parenthesize {depth : Nat} {cs : List Char} (hcs : NestedUpTo depth cs)
    (hbalanced : ParensBalanced cs) : NestedUpTo (depth + 1) ('(' :: (cs ++ [')'])) := by
  intro before hbefore
  rcases List.prefix_cons_iff.1 hbefore with rfl | ⟨inner, rfl, hinner⟩
  · simp
  · rcases List.prefix_concat_iff.1 hinner with rfl | hinner
    · unfold ParensBalanced at hbalanced
      simp only [List.count_cons, List.count_append, List.count_nil]
      simp
      omega
    · obtain ⟨hclosed, hopen⟩ := hcs inner hinner
      simp only [List.count_cons]
      simp
      omega

end SampleForge.Text
