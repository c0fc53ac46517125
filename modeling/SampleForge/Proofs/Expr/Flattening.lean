import SampleForge.Proofs.Expr.Grammar

/-!
# What an expression is printed as

`Expr.flatten` is the parse of the text of an expression.  A sum without parentheses is spliced into
the sum around it, and a sum in parentheses becomes a group of two terms or more.  Literals keep
their order and groups their place, so association is all that a text does not show; two
expressions look alike exactly if their flattenings are equal.
-/

namespace SampleForge

open Text

namespace FlatSum

/-- The terms of one sum followed by those of another. -/
def append : FlatSum → FlatSum → FlatSum
  | last term, more => plus term more
  | plus term rest, more => plus term (rest.append more)

/-- The terms of a sum, groups not opened. -/
def terms : FlatSum → List FlatTerm
  | last term => [term]
  | plus term rest => term :: rest.terms

theorem text_append (sum more : FlatSum) :
    (sum.append more).text = sum.text ++ plusSign ++ more.text := by
  match sum with
  | last term => simp [append, text]
  | plus term rest => simp [append, text, text_append rest more]

theorem terms_append (sum more : FlatSum) : (sum.append more).terms = sum.terms ++ more.terms := by
  match sum with
  | last term => rfl
  | plus term rest => rw [append, terms, terms, terms_append rest more, List.cons_append]

theorem one_le_length_terms (sum : FlatSum) : 1 ≤ sum.terms.length := by
  match sum with
  | last term => exact Nat.le_refl 1
  | plus term rest => exact Nat.succ_le_succ (Nat.zero_le _)

end FlatSum

mutual

/-- The literals of a term from left to right. -/
def FlatTerm.literals : FlatTerm → List UInt32
  | .numeral value => [value]
  | .group inner => inner.literals

/-- The literals of a sum from left to right. -/
def FlatSum.literals : FlatSum → List UInt32
  | .last term => term.literals
  | .plus term rest => term.literals ++ rest.literals

end

mutual

/-- The number a term stands for. -/
def FlatTerm.value : FlatTerm → Nat
  | .numeral value => value.toNat
  | .group inner => inner.value

/-- The number a sum stands for. -/
def FlatSum.value : FlatSum → Nat
  | .last term => term.value
  | .plus term rest => term.value + rest.value

end

mutual

/-- Parentheses hold two terms or more, here and inside. -/
def FlatTerm.Grouped : FlatTerm → Prop
  | .numeral _ => True
  | .group inner => 2 ≤ inner.terms.length ∧ inner.Grouped

/-- Parentheses hold two terms or more, in every term. -/
def FlatSum.Grouped : FlatSum → Prop
  | .last term => term.Grouped
  | .plus term rest => term.Grouped ∧ rest.Grouped

end

/-- The number that a text stands for, read as a sum. -/
def TextValue (cs : List Char) (n : Nat) : Prop :=
  ∃ parse, SumText parse cs ∧ parse.value = n

/-- The parse of the text of an expression. -/
def Expr.flatten : Expr → FlatSum
  | .literal value => .last (.numeral value)
  | .sum left right false => left.flatten.append right.flatten
  | .sum left right true => .last (.group (left.flatten.append right.flatten))

/-! ## The value of a parse -/

theorem FlatSum.literals_append (sum more : FlatSum) :
    (sum.append more).literals = sum.literals ++ more.literals := by
  match sum with
  | .last term => rw [append, literals, literals]
  | .plus term rest =>
      rw [append, literals, literals, literals_append rest more, List.append_assoc]

theorem FlatSum.grouped_append {sum more : FlatSum} (hsum : sum.Grouped) (hmore : more.Grouped) :
    (sum.append more).Grouped := by
  match sum with
  | .last term =>
      rw [append, Grouped]
      rw [Grouped] at hsum
      exact ⟨hsum, hmore⟩
  | .plus term rest =>
      rw [append, Grouped]
      rw [Grouped] at hsum
      exact ⟨hsum.1, grouped_append hsum.2 hmore⟩

mutual

theorem FlatTerm.value_eq_sum (term : FlatTerm) :
    term.value = (term.literals.map UInt32.toNat).sum := by
  cases term with
  | numeral value => simp [FlatTerm.value, FlatTerm.literals]
  | group inner => rw [FlatTerm.value, FlatTerm.literals, inner.value_eq_sum]

theorem FlatSum.value_eq_sum (sum : FlatSum) :
    sum.value = (sum.literals.map UInt32.toNat).sum := by
  cases sum with
  | last term => rw [FlatSum.value, FlatSum.literals, term.value_eq_sum]
  | plus term rest =>
      rw [FlatSum.value, FlatSum.literals, term.value_eq_sum, rest.value_eq_sum, List.map_append,
        List.sum_append]

end

/-! ## The flattening is the parse -/

namespace Expr

theorem text_flatten (e : Expr) : e.flatten.text = e.render.toList := by
  induction e using renderInduction with
  | literal value => rw [flatten, FlatSum.text, FlatTerm.text, toList_render_literal]
  | bare left right ihl ihr =>
      rw [flatten, FlatSum.text_append, ihl, ihr, toList_render_bare]
  | parenthesized left right ih =>
      rw [flatten, FlatSum.text, FlatTerm.text, toList_render_parenthesized, ← ih, flatten]

theorem literals_flatten (e : Expr) : e.flatten.literals = e.literals := by
  induction e using renderInduction with
  | literal value => rw [flatten, FlatSum.literals, FlatTerm.literals, literals]
  | bare left right ihl ihr => rw [flatten, FlatSum.literals_append, ihl, ihr, literals]
  | parenthesized left right ih =>
      rw [flatten, FlatSum.literals, FlatTerm.literals, ← flatten, ih, literals, literals]

theorem grouped_flatten (e : Expr) : e.flatten.Grouped := by
  induction e using renderInduction with
  | literal value =>
      rw [flatten, FlatSum.Grouped, FlatTerm.Grouped]
      trivial
  | bare left right ihl ihr =>
      rw [flatten]
      exact FlatSum.grouped_append ihl ihr
  | parenthesized left right ih =>
      have hleft := left.flatten.one_le_length_terms
      have hright := right.flatten.one_le_length_terms
      rw [flatten, FlatSum.Grouped, FlatTerm.Grouped]
      refine ⟨?_, ih⟩
      rw [FlatSum.terms_append, List.length_append]
      omega

theorem sumText_render_iff (e : Expr) (parse : FlatSum) :
    SumText parse e.render.toList ↔ parse = e.flatten := by
  rw [sumText_iff, ← text_flatten]
  constructor
  · intro h
    exact (FlatSum.text_injective h).symm
  · rintro rfl
    rfl

theorem render_eq_iff (e other : Expr) : e.render = other.render ↔ e.flatten = other.flatten := by
  rw [← String.toList_inj, ← text_flatten, ← text_flatten]
  constructor
  · exact FlatSum.text_injective
  · exact congrArg FlatSum.text

/-- Association is not shown. -/
example : (sum (sum (literal 1) (literal 2) false) (literal 3) false).render =
    (sum (literal 1) (sum (literal 2) (literal 3) false) false).render := by
  decide

theorem textValue_render_iff (e : Expr) (n : Nat) :
    TextValue e.render.toList n ↔ n = (e.literals.map UInt32.toNat).sum := by
  have hvalue : e.flatten.value = (e.literals.map UInt32.toNat).sum := by
    rw [FlatSum.value_eq_sum, literals_flatten]
  constructor
  · rintro ⟨parse, hparse, rfl⟩
    rw [(sumText_render_iff e parse).1 hparse, hvalue]
  · rintro rfl
    exact ⟨e.flatten, (sumText_render_iff e _).2 rfl, hvalue⟩

/-- The text of an expression is a sum of the grammar with one parse, the flattening, and this is
all it shows.  Its numerals are the literals, it has a sign fewer than numerals, and its parentheses
are nested no deeper than the sums of the expression. -/
theorem render_parses_as_flatten (e : Expr) :
    (∀ parse, SumText parse e.render.toList ↔ parse = e.flatten) ∧
      e.flatten.Grouped ∧
      e.flatten.literals = e.literals ∧
      (∀ other : Expr, e.render = other.render ↔ e.flatten = other.flatten) ∧
      (∀ n, TextValue e.render.toList n ↔ n = (e.literals.map UInt32.toNat).sum) ∧
      digitRuns e.render.toList = e.literals.map (fun value => digits value.toNat) ∧
      (digitRuns e.render.toList).length = e.leafCount ∧
      occurrences plusSign e.render.toList = e.leafCount - 1 ∧
      NestedUpTo e.depth e.render.toList := by
  have hruns : digitRuns e.render.toList = e.literals.map (fun value => digits value.toNat) := by
    simpa using @digitRuns_render e [] (by simp)
  have hsigns : occurrences plusSign e.render.toList + 1 = e.leafCount := by
    have hend : occurrences plusSign [] = 0 := by decide
    simpa [hend] using e.occurrences_plusSign_render []
  refine ⟨sumText_render_iff e, grouped_flatten e, literals_flatten e, render_eq_iff e,
    textValue_render_iff e, hruns, ?_, by omega, ?_⟩
  · rw [hruns, List.length_map, length_literals]
  · exact e.nestedUpTo_render.mono e.parenDepth_le_depth

end Expr

end SampleForge
