import SampleForge.Expr.Basic
import SampleForge.Proofs.Text.Census
import SampleForge.Proofs.Text.Numerals

/-!
# What stands in the text of an expression

The text of an expression is looked at as a list of characters: which characters occur, which
numerals, how often ` + `, and how many parentheses are open at a place.  Parentheses only wrap the
text of the same sum without them, so `Expr.renderInduction` has a case for that instead of two
cases of sums.  Where the parts of a sum stand in front of further text, the statement is about the
text with an arbitrary text behind it.
-/

namespace SampleForge

open Text

/-- What stands between the parts of a sum. -/
def plusSign : List Char := " + ".toList

namespace Expr

/-- The literals from left to right. -/
def literals : Expr → List UInt32
  | literal value => [value]
  | sum left right _ => left.literals ++ right.literals

/-- The number of nested parentheses. -/
def parenDepth : Expr → Nat
  | literal _ => 0
  | sum left right parenthesized =>
    max left.parenDepth right.parenDepth + if parenthesized then 1 else 0

/-- Induction along the text: a sum in parentheses comes after the same sum without them. -/
@[elab_as_elim]
theorem renderInduction {motive : Expr → Prop} (literal : ∀ value, motive (literal value))
    (bare : ∀ left right, motive left → motive right → motive (sum left right false))
    (parenthesized : ∀ left right, motive (sum left right false) → motive (sum left right true))
    (e : Expr) : motive e := by
  induction e with
  | literal value => exact literal value
  | sum left right flag ihl ihr =>
      have hbare := bare left right ihl ihr
      cases flag with
      | false => exact hbare
      | true => exact parenthesized left right hbare

theorem length_literals (e : Expr) : e.literals.length = e.leafCount := by
  induction e with
  | literal value => rfl
  | sum left right flag ihl ihr => rw [literals, List.length_append, ihl, ihr, leafCount]

theorem parenDepth_le_depth (e : Expr) : e.parenDepth ≤ e.depth := by
  induction e with
  | literal value => exact Nat.le_refl 0
  | sum left right flag ihl ihr =>
      rw [parenDepth, depth]
      cases flag <;> simp <;> omega

@[simp] theorem toList_render_literal (value : UInt32) :
    (literal value).render.toList = digits value.toNat :=
  Nat.toList_repr

@[simp] theorem toList_render_bare (left right : Expr) :
    (sum left right false).render.toList =
      left.render.toList ++ plusSign ++ right.render.toList := by
  simp [render, plusSign]

@[simp] theorem toList_render_parenthesized (left right : Expr) :
    (sum left right true).render.toList =
      '(' :: ((sum left right false).render.toList ++ [')']) := by
  simp [render]

/-- Besides digits only four characters occur. -/
theorem mem_render {e : Expr} {c : Char} (hc : c ∈ e.render.toList) :
    c.isDigit = true ∨ c ∈ [' ', '+', '(', ')'] := by
  induction e using renderInduction with
  | literal value =>
      rw [toList_render_literal] at hc
      exact Or.inl (isDigit_of_mem_digits hc)
  | bare left right ihl ihr =>
      rw [toList_render_bare, List.mem_append, List.mem_append] at hc
      rcases hc with (hc | hc) | hc
      · exact ihl hc
      · have hsub : plusSign ⊆ [' ', '+', '(', ')'] := by decide
        exact Or.inr (hsub hc)
      · exact ihr hc
  | parenthesized left right ih =>
      rw [toList_render_parenthesized, List.mem_cons, List.mem_append, List.mem_singleton] at hc
      rcases hc with rfl | hc | rfl
      · exact Or.inr (by decide)
      · exact ih hc
      · exact Or.inr (by decide)

/-- A text of an expression begins with a digit or an opening parenthesis. -/
theorem exists_render_cons (e : Expr) :
    ∃ c cs, e.render.toList = c :: cs ∧ (c.isDigit = true ∨ c = '(') := by
  induction e using renderInduction with
  | literal value =>
      obtain ⟨c, cs, hcs, hc⟩ := exists_digits_cons value.toNat
      exact ⟨c, cs, by rw [toList_render_literal, hcs], Or.inl hc⟩
  | bare left right ihl ihr =>
      obtain ⟨c, cs, hcs, hc⟩ := ihl
      exact ⟨c, cs ++ plusSign ++ right.render.toList, by simp [hcs], hc⟩
  | parenthesized left right ih =>
      exact ⟨'(', _, toList_render_parenthesized left right, Or.inr rfl⟩

end Expr

/-! ## Plus signs -/

/-- The sign counts once if what follows does not begin with its second half. -/
theorem occurrences_plusSign_append {c : Char} (hc : c ≠ '+') (cs : List Char) :
    occurrences plusSign (plusSign ++ c :: cs) = 1 + occurrences plusSign (c :: cs) := by
  change occurrences plusSign (' ' :: '+' :: ' ' :: c :: cs) = _
  have hfirst : plusSign.isPrefixOf (' ' :: '+' :: ' ' :: c :: cs) = true := by
    simp [plusSign, List.isPrefixOf]
  have hlast : plusSign.isPrefixOf (' ' :: c :: cs) = false := by
    simp [plusSign, List.isPrefixOf, hc.symm]
  rw [occurrences, hfirst, if_pos rfl]
  congr 1
  have hsecond : occurrences plusSign ('+' :: ' ' :: c :: cs) =
      occurrences plusSign (' ' :: c :: cs) := occurrences_cons_of_ne (by decide) _ _
  rw [hsecond, occurrences, hlast]
  simp

namespace Expr

/-- Every sum contributes its own sign, and signs never run into one another. -/
theorem occurrences_plusSign_render (e : Expr) (rest : List Char) :
    occurrences plusSign (e.render.toList ++ rest) + 1 =
      e.leafCount + occurrences plusSign rest := by
  induction e using renderInduction generalizing rest with
  | literal value =>
      have hpass : occurrences plusSign (digits value.toNat ++ rest) = occurrences plusSign rest :=
        occurrences_append_of_not_mem (not_mem_digits (by decide) _) _ _
      rw [toList_render_literal, hpass, leafCount, Nat.add_comm]
  | bare left right ihl ihr =>
      obtain ⟨c, cs, hcs, hc⟩ := right.exists_render_cons
      -- The sign is counted once because no second plus follows it.
      have hplus : c ≠ '+' := by
        rintro rfl
        rcases hc with hc | hc <;> revert hc <;> decide
      have hsign : occurrences plusSign (plusSign ++ (right.render.toList ++ rest)) =
          1 + occurrences plusSign (right.render.toList ++ rest) := by
        rw [hcs]
        exact occurrences_plusSign_append hplus (cs ++ rest)
      have hright := ihr rest
      rw [toList_render_bare, List.append_assoc, List.append_assoc, ihl, hsign, leafCount]
      omega
  | parenthesized left right ih =>
      have hparen : ∀ c cs, c ≠ ' ' →
          occurrences plusSign (c :: cs) = occurrences plusSign cs :=
        fun c cs hc => occurrences_cons_of_ne hc _ cs
      rw [toList_render_parenthesized, List.cons_append, hparen _ _ (by decide),
        List.append_assoc, ih, List.singleton_append, hparen _ _ (by decide)]
      rfl

/-! ## Numerals -/

/-- The numerals in the text are those of the literals. -/
theorem digitRuns_render (e : Expr) {rest : List Char}
    (hrest : ∀ c ∈ rest.head?, c.isDigit = false) :
    digitRuns (e.render.toList ++ rest) =
      e.literals.map (fun value => digits value.toNat) ++ digitRuns rest := by
  induction e using renderInduction generalizing rest with
  | literal value =>
      rw [toList_render_literal,
        digitRuns_append (digits_ne_nil _) (fun c hc => isDigit_of_mem_digits hc) hrest]
      rfl
  | bare left right ihl ihr =>
      rw [toList_render_bare, List.append_assoc, List.append_assoc, ihl (by simp [plusSign]),
        digitRuns_append_of_no_digit (by simp [plusSign]), ihr hrest, literals, List.map_append,
        List.append_assoc]
  | parenthesized left right ih =>
      rw [toList_render_parenthesized, List.cons_append, digitRuns_cons_of_not_digit (by decide),
        List.append_assoc, ih (by simp), List.singleton_append,
        digitRuns_cons_of_not_digit (by decide)]
      rfl

/-! ## Parentheses -/

theorem parensBalanced_render (e : Expr) : ParensBalanced e.render.toList := by
  induction e using renderInduction with
  | literal value =>
      rw [toList_render_literal]
      exact parensBalanced_of_not_mem (not_mem_digits (by decide) _)
        (not_mem_digits (by decide) _)
  | bare left right ihl ihr =>
      have hsign : ParensBalanced plusSign := parensBalanced_of_not_mem (by decide) (by decide)
      rw [toList_render_bare]
      exact (ihl.append hsign).append ihr
  | parenthesized left right ih =>
      rw [toList_render_parenthesized]
      exact ih.parenthesize

/-- The nesting of parentheses in the text is that of the flags in the tree at most. -/
theorem nestedUpTo_render (e : Expr) : NestedUpTo e.parenDepth e.render.toList := by
  induction e using renderInduction with
  | literal value =>
      rw [toList_render_literal]
      exact nestedUpTo_of_not_mem (not_mem_digits (by decide) _) (not_mem_digits (by decide) _) _
  | bare left right ihl ihr =>
      have hsign : ∀ depth, NestedUpTo depth plusSign :=
        nestedUpTo_of_not_mem (by decide) (by decide)
      have hsign' : ParensBalanced plusSign := parensBalanced_of_not_mem (by decide) (by decide)
      -- Both parts are brought to the greater of the two depths.
      have hleft := (ihl.mono (Nat.le_max_left _ right.parenDepth)).append
        left.parensBalanced_render (hsign _)
      rw [toList_render_bare]
      exact hleft.append (left.parensBalanced_render.append hsign')
        (ihr.mono (Nat.le_max_right _ _))
  | parenthesized left right ih =>
      rw [toList_render_parenthesized]
      exact ih.parenthesize (sum left right false).parensBalanced_render

end Expr

end SampleForge
