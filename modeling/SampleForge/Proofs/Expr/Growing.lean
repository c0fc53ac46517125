import Mathlib.Tactic
import SampleForge.Expr.Growth

/-!
# Runs of the growth

`Grown source growth depth s e s'` says that growing from the state `s`, with sums nested `depth`
deep at most, gives the expression `e` and leaves the state `s'`.  Every rule names the draws it
makes and the states between them.  At depth zero the uniform draw is made and means nothing.

Runs exist from every state.  As long as there is a literal to draw, they are what `grow?` computes:
`grow?_eq_some_iff`.  Statements about grown expressions are proved by induction on the run.
-/

namespace SampleForge.Expr

open Numeric SampleForge.Random

variable {σ : Type}

/-- One run of the growth. -/
inductive Grown (source : Source σ) (growth : Growth) : Nat → σ → Expr → σ → Prop
  | bottom {s s₁ s' : σ} {draw : UnitDraw} {value : UInt32}
      (ignored : source.uniform s = (draw, s₁))
      (drawn : source.below growth.literalBound s₁ = (value, s')) :
      Grown source growth 0 s (literal value) s'
  | leaf {depth : Nat} {s s₁ s' : σ} {draw : UnitDraw} {value : UInt32}
      (first : source.uniform s = (draw, s₁))
      (low : fallsBelow draw growth.leafProbability = true)
      (drawn : source.below growth.literalBound s₁ = (value, s')) :
      Grown source growth (depth + 1) s (literal value) s'
  | sum {depth : Nat} {s s₁ s₂ s₃ s' : σ} {draw last : UnitDraw} {left right : Expr} {flag : Bool}
      (first : source.uniform s = (draw, s₁))
      (high : fallsBelow draw growth.leafProbability = false)
      (grownLeft : Grown source growth depth s₁ left s₂)
      (grownRight : Grown source growth depth s₂ right s₃)
      (closing : source.uniform s₃ = (last, s'))
      (flagged : fallsBelow last growth.parenProbability = flag) :
      Grown source growth (depth + 1) s (sum left right flag) s'

variable {source : Source σ} {growth : Growth}

theorem growLiteral?_of_pos {bound : UInt32} (hbound : 0 < bound) (s : σ) :
    growLiteral? source bound s =
      some (literal (source.below bound s).1, (source.below bound s).2) :=
  if_pos hbound

theorem grow?_zero (s : σ) :
    grow? source growth 0 s = growLiteral? source growth.literalBound (source.uniform s).2 := rfl

theorem grow?_succ_of_low {s : σ} (hlow : fallsBelow (source.uniform s).1 growth.leafProbability = true)
    (depth : Nat) :
    grow? source growth (depth + 1) s =
      growLiteral? source growth.literalBound (source.uniform s).2 :=
  if_pos hlow

theorem grow?_succ_of_high {s : σ}
    (hhigh : fallsBelow (source.uniform s).1 growth.leafProbability = false) (depth : Nat) :
    grow? source growth (depth + 1) s =
      (grow? source growth depth (source.uniform s).2).bind fun left =>
        (grow? source growth depth left.2).bind fun right =>
          some (sum left.1 right.1 (fallsBelow (source.uniform right.2).1 growth.parenProbability),
            (source.uniform right.2).2) := by
  have hnot : ¬ fallsBelow (source.uniform s).1 growth.leafProbability = true := by
    rw [hhigh]
    exact Bool.false_ne_true
  refine (if_neg hnot).trans ?_
  cases grow? source growth depth (source.uniform s).2 with
  | none => rfl
  | some outcome =>
      obtain ⟨left, s₂⟩ := outcome
      simp only [Option.bind_some]
      cases grow? source growth depth s₂ <;> rfl

/-- A run ends, whatever the source answers. -/
theorem exists_grown (source : Source σ) (growth : Growth) (depth : Nat) (s : σ) :
    ∃ e s', Grown source growth depth s e s' := by
  induction depth generalizing s with
  | zero => exact ⟨_, _, .bottom rfl rfl⟩
  | succ depth ih =>
      cases hdraw : fallsBelow (source.uniform s).1 growth.leafProbability with
      | true => exact ⟨_, _, .leaf rfl hdraw rfl⟩
      | false =>
          obtain ⟨left, s₂, hleft⟩ := ih (source.uniform s).2
          obtain ⟨right, s₃, hright⟩ := ih s₂
          exact ⟨_, _, .sum rfl hdraw hleft hright rfl rfl⟩

/-- Every run is found by the function. -/
theorem Grown.grow?_eq (hbound : 0 < growth.literalBound) {depth : Nat} {s s' : σ} {e : Expr}
    (h : Grown source growth depth s e s') : grow? source growth depth s = some (e, s') := by
  induction h with
  | bottom ignored drawn =>
      rw [grow?_zero, growLiteral?_of_pos hbound, ignored, drawn]
  | leaf first low drawn =>
      rw [grow?_succ_of_low (by rw [first]; exact low), growLiteral?_of_pos hbound, first, drawn]
  | sum first high grownLeft grownRight closing flagged ihl ihr =>
      rw [grow?_succ_of_high (by rw [first]; exact high), first, ihl, Option.bind_some, ihr,
        Option.bind_some, closing, flagged]

/-- There is one run from every state. -/
theorem Grown.unique (hbound : 0 < growth.literalBound) {depth : Nat} {s s' t' : σ} {e f : Expr}
    (h : Grown source growth depth s e s') (h' : Grown source growth depth s f t') :
    e = f ∧ s' = t' :=
  Prod.mk.inj (Option.some.inj ((h.grow?_eq hbound).symm.trans (h'.grow?_eq hbound)))

theorem grow?_eq_some_iff (hbound : 0 < growth.literalBound) {depth : Nat} {s s' : σ} {e : Expr} :
    grow? source growth depth s = some (e, s') ↔ Grown source growth depth s e s' := by
  constructor
  · intro h
    obtain ⟨f, t, hrun⟩ := exists_grown source growth depth s
    -- The function gives one outcome, so the run that exists is the run to `e`.
    obtain ⟨rfl, rfl⟩ := Prod.mk.inj (Option.some.inj ((hrun.grow?_eq hbound).symm.trans h))
    exact hrun
  · exact fun h => h.grow?_eq hbound

end SampleForge.Expr
