import SampleForge.Proofs.Expr.Growing
import SampleForge.Proofs.Expr.Rendering
import SampleForge.Proofs.Numeric.Dyadic

/-!
# The language of grown expressions

The expressions of depth `depth` at most with literals below `bound` are the language,
`Expr.Within`.  Every run ends in it, whatever the source and the probabilities are.

For the other direction an expression is turned into the draws that lead to it: `Expr.draws` are its
uniform draws in the order in which they are made, and the literals are the bounded ones.  A source
that plays back two recorded lists then grows the expression and leaves what stands behind its draws
untouched, `grown_playback`.  Only the extreme uniform draws are recorded.  The lowest falls below
every positive probability and the highest below none that is less than one.
-/

namespace SampleForge

open Numeric SampleForge.Random

/-! ## Playback -/

/-- The uniform draw zero. -/
def lowestDraw : UnitDraw := ⟨0, by decide⟩

/-- The last uniform draw before one. -/
def highestDraw : UnitDraw := ⟨unitSteps - 1, by decide⟩

theorem fallsBelow_lowestDraw {probability : Binary64} (h : probability.InOpenUnit) :
    fallsBelow lowestDraw probability = true := by
  obtain ⟨a, ha, hpos, -⟩ := h
  refine (Binary64.exceedsDyadic_eq_true_iff ha lowestDraw.val unitBits).2 ?_
  simpa [lowestDraw] using hpos

theorem fallsBelow_highestDraw {probability : Binary64} (h : probability.InOpenUnit) :
    fallsBelow highestDraw probability = false := by
  obtain ⟨a, ha, -, hlt⟩ := h
  refine Bool.eq_false_of_not_eq_true fun hfalls => ?_
  have hbelow := (Binary64.exceedsDyadic_eq_true_iff ha highestDraw.val unitBits).1 hfalls
  have hstep : (highestDraw.val : Rat) / 2 ^ unitBits = (2 ^ 53 - 1) / 2 ^ 53 := by
    norm_num [highestDraw, unitSteps, unitBits]
  rw [hstep] at hbelow
  exact absurd (Binary64.le_of_toRat?_lt_one ha hlt) (not_le.2 hbelow)

/-- Draws that have been recorded, the next one first. -/
structure Tape where
  draws : List UnitDraw
  literals : List UInt32

/-- The next uniform draw of a tape; an empty tape gives the lowest. -/
def Tape.uniform : Tape → UnitDraw × Tape
  | ⟨[], literals⟩ => (lowestDraw, ⟨[], literals⟩)
  | ⟨draw :: draws, literals⟩ => (draw, ⟨draws, literals⟩)

/-- The next literal of a tape if it is below the bound, and zero else. -/
def Tape.below (bound : UInt32) : Tape → UInt32 × Tape
  | ⟨draws, []⟩ => (0, ⟨draws, []⟩)
  | ⟨draws, value :: literals⟩ => (if value < bound then value else 0, ⟨draws, literals⟩)

/-- The source that plays back a tape. -/
def playback : Source Tape where
  uniform := Tape.uniform
  below := Tape.below
  below_lt := by
    intro bound tape hbound
    obtain ⟨draws, literals⟩ := tape
    cases literals with
    | nil => exact hbound
    | cons value literals =>
        change (if value < bound then value else 0) < bound
        split
        · assumption
        · exact hbound

theorem playback_below {bound value : UInt32} (hvalue : value < bound) (draws : List UnitDraw)
    (literals : List UInt32) :
    playback.below bound ⟨draws, value :: literals⟩ = (value, ⟨draws, literals⟩) := by
  change (if value < bound then value else 0, _) = _
  rw [if_pos hvalue]

namespace Expr

/-! ## The language -/

/-- The expression is in the language of the given depth and bound. -/
structure Within (depth : Nat) (bound : UInt32) (e : Expr) : Prop where
  depth_le : e.depth ≤ depth
  literals_lt : ∀ value ∈ e.literals, value < bound

variable {depth : Nat} {bound : UInt32}

theorem within_literal_iff {value : UInt32} : Within depth bound (literal value) ↔ value < bound := by
  constructor
  · intro h
    exact h.literals_lt value (List.mem_singleton.2 rfl)
  · intro h
    exact ⟨Nat.zero_le depth, List.forall_mem_singleton.2 h⟩

theorem within_succ_sum_iff {left right : Expr} {flag : Bool} :
    Within (depth + 1) bound (sum left right flag) ↔
      Within depth bound left ∧ Within depth bound right := by
  constructor
  · rintro ⟨hdepth, hliterals⟩
    rw [Expr.depth] at hdepth
    rw [literals, List.forall_mem_append] at hliterals
    exact ⟨⟨by omega, hliterals.1⟩, ⟨by omega, hliterals.2⟩⟩
  · rintro ⟨hleft, hright⟩
    have hmax : max left.depth right.depth ≤ depth := max_le hleft.depth_le hright.depth_le
    refine ⟨?_, List.forall_mem_append.2 ⟨hleft.literals_lt, hright.literals_lt⟩⟩
    rw [Expr.depth]
    omega

theorem not_within_zero_sum {left right : Expr} {flag : Bool} :
    ¬ Within 0 bound (sum left right flag) := by
  rintro ⟨hdepth, -⟩
  rw [Expr.depth] at hdepth
  omega

/-- A run ends in the language. -/
theorem Grown.within {σ : Type} {source : Source σ} {growth : Growth}
    (hbound : 0 < growth.literalBound) {s s' : σ} {e : Expr}
    (h : Grown source growth depth s e s') : e.Within depth growth.literalBound := by
  induction h with
  | @bottom s s₁ s' draw value ignored drawn =>
      have hlt := source.below_lt growth.literalBound s₁ hbound
      rw [drawn] at hlt
      exact within_literal_iff.2 hlt
  | @leaf depth s s₁ s' draw value first low drawn =>
      have hlt := source.below_lt growth.literalBound s₁ hbound
      rw [drawn] at hlt
      exact within_literal_iff.2 hlt
  | sum first high grownLeft grownRight closing flagged ihl ihr =>
      exact within_succ_sum_iff.2 ⟨ihl, ihr⟩

/-! ## Every expression of the language is grown -/

/-- The uniform draws that lead to an expression, in the order in which they are made. -/
def draws : Expr → List UnitDraw
  | literal _ => [lowestDraw]
  | sum left right parenthesized =>
    highestDraw :: (left.draws ++ (right.draws ++ [if parenthesized then lowestDraw else highestDraw]))

/-- A recorded expression is grown again, and what is recorded behind it stays. -/
theorem grown_playback {growth : Growth} (hleaf : growth.leafProbability.InOpenUnit)
    (hparen : growth.parenProbability.InOpenUnit) {e : Expr}
    (h : e.Within depth growth.literalBound) (draws : List UnitDraw) (literals : List UInt32) :
    Grown playback growth depth ⟨e.draws ++ draws, e.literals ++ literals⟩ e ⟨draws, literals⟩ := by
  induction e generalizing depth draws literals with
  | literal value =>
      have hbelow := playback_below (within_literal_iff.1 h) draws literals
      -- At depth zero the draw is not looked at, above it has to be low.
      cases depth with
      | zero => exact .bottom rfl hbelow
      | succ depth => exact .leaf rfl (fallsBelow_lowestDraw hleaf) hbelow
  | sum left right flag ihl ihr =>
      cases depth with
      | zero => exact absurd h not_within_zero_sum
      | succ depth =>
          obtain ⟨hleft, hright⟩ := within_succ_sum_iff.1 h
          have hflag : fallsBelow (if flag then lowestDraw else highestDraw)
              growth.parenProbability = flag := by
            cases flag with
            | true => exact fallsBelow_lowestDraw hparen
            | false => exact fallsBelow_highestDraw hparen
          have hstart : playback.uniform
              ⟨(sum left right flag).draws ++ draws, (sum left right flag).literals ++ literals⟩ =
                (highestDraw, ⟨left.draws ++ (right.draws ++
                  ((if flag then lowestDraw else highestDraw) :: draws)),
                    left.literals ++ (right.literals ++ literals)⟩) := by
            simp [playback, Tape.uniform, Expr.draws, Expr.literals]
          exact .sum hstart (fallsBelow_highestDraw hleaf) (ihl hleft _ _) (ihr hright _ _) rfl hflag

/-- Growing gives an expression of the language from every source and state.  If neither
probability is extreme, it gives every expression of the language from some. -/
theorem growth_produces_language (growth : Growth) (depth : Nat) (hbound : 0 < growth.literalBound) :
    (∀ (σ : Type) (source : Source σ) (s : σ), ∃ e s', grow? source growth depth s = some (e, s') ∧
      e.Within depth growth.literalBound) ∧
    (growth.leafProbability.InOpenUnit → growth.parenProbability.InOpenUnit → ∀ e : Expr,
      (∃ (σ : Type) (source : Source σ) (s s' : σ), grow? source growth depth s = some (e, s')) ↔
        e.Within depth growth.literalBound) := by
  refine ⟨?_, ?_⟩
  · intro σ source s
    obtain ⟨e, s', hrun⟩ := exists_grown source growth depth s
    exact ⟨e, s', hrun.grow?_eq hbound, hrun.within hbound⟩
  · intro hleaf hparen e
    constructor
    · rintro ⟨σ, source, s, s', h⟩
      exact ((grow?_eq_some_iff hbound).1 h).within hbound
    · intro h
      have hrun := grown_playback hleaf hparen h [] []
      exact ⟨Tape, playback, _, _, hrun.grow?_eq hbound⟩

/-- The probabilities are the doubles next to one and next to zero. -/
def edgeGrowth : Growth where
  maxDepth := 2
  leafProbability := ⟨0x3FEFFFFFFFFFFFFF⟩
  parenProbability := ⟨1⟩
  literalBound := 10

/-- Even then a sum with parentheses inside a sum without them comes out. -/
theorem edgeGrowth_produces_nested_sum :
    0 < edgeGrowth.literalBound ∧ edgeGrowth.leafProbability.InOpenUnit ∧
      edgeGrowth.parenProbability.InOpenUnit ∧
      ∃ (σ : Type) (source : Source σ) (s s' : σ), grow? source edgeGrowth 2 s =
        some (sum (sum (literal 3) (literal 9) true) (literal 0) false, s') := by
  have hbound : 0 < edgeGrowth.literalBound := by decide
  have hleafValue : edgeGrowth.leafProbability.value =
      .finite false 9007199254740991 (-(53 : Nat)) := by decide
  have hparenValue : edgeGrowth.parenProbability.value =
      .finite false 1 (-(1074 : Nat)) := by decide
  have hleaf := Binary64.inOpenUnit_of_value hleafValue (by decide) (by decide)
  have hparen := Binary64.inOpenUnit_of_value hparenValue (by decide)
    (one_lt_pow₀ Nat.one_lt_two (by decide))
  refine ⟨hbound, hleaf, hparen, ?_⟩
  have hliterals : ∀ value ∈ [(3 : UInt32), 9, 0], value < 10 := by simp
  exact ((growth_produces_language edgeGrowth 2 hbound).2 hleaf hparen _).2
    ⟨by decide, hliterals⟩

end Expr
end SampleForge
