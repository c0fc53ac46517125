import SampleForge.Expr.Basic
import SampleForge.Random.Source
import SampleForge.Numeric.Binary64

/-!
# Growing expressions

`Expr.grow?` grows a random expression.  At every node one uniform draw decides between a literal
and a sum; a literal takes one bounded draw, a sum grows its left and its right part and takes one
more uniform draw for its parentheses, in this order.  At depth zero the first draw is made and not
looked at.  The outcome is `none` exactly when a literal is asked from an empty range.
-/

namespace SampleForge

open Numeric SampleForge.Random

/-- How expressions are grown. -/
structure Growth where
  /-- Sums are never nested deeper than this. -/
  maxDepth : UInt32
  /-- The probability of a literal above depth zero. -/
  leafProbability : Binary64
  /-- The probability that a sum is put in parentheses. -/
  parenProbability : Binary64
  /-- Literals lie below this bound. -/
  literalBound : UInt32
deriving DecidableEq

/-- Whether a uniform draw falls below a probability, which need not be one. -/
def fallsBelow (draw : UnitDraw) (probability : Binary64) : Bool :=
  probability.exceedsDyadic draw.val unitBits

namespace Expr

variable {σ : Type}

/-- Draws a literal below `bound`. -/
def growLiteral? (source : Source σ) (bound : UInt32) (s : σ) : Option (Expr × σ) :=
  if 0 < bound then
    let (value, s) := source.below bound s
    some (literal value, s)
  else none

/-- Grows an expression of at most the given depth. -/
def grow? (source : Source σ) (growth : Growth) : Nat → σ → Option (Expr × σ)
  | 0, s =>
    let (_, s) := source.uniform s
    growLiteral? source growth.literalBound s
  | depth + 1, s =>
    let (draw, s) := source.uniform s
    if fallsBelow draw growth.leafProbability then growLiteral? source growth.literalBound s
    else
      match grow? source growth depth s with
      | none => none
      | some (left, s) =>
        match grow? source growth depth s with
        | none => none
        | some (right, s) =>
          let (draw, s) := source.uniform s
          some (sum left right (fallsBelow draw growth.parenProbability), s)

end Expr
end SampleForge
