import SampleForge.Proofs.Expr.Language
import SampleForge.Proofs.Generation.Samples

/-!
# The size and the shape of grown expressions

An expression has more literals than levels of sums, and no more than a binary tree of its depth has room
for: `depth_lt_leafCount` and `leafCount_le_two_pow_depth`.

What is grown in between is left to the source, except at the two ends of the probability of a literal.
If no draw falls below it, which is so up to zero and for what is no number, sums are made as long as
there is depth left and every literal stands at the last level: `Perfect`.  From one on every draw falls
below it, and the first literal is all that is grown.  `size_and_shape_of_grown` says this of every run
and of the samples of a seed, which at both ends are all of one size.
-/

namespace SampleForge

open Numeric SampleForge.Random

namespace Expr

/-- The numbers of sums around the literals, from the left. -/
def leafLevels : Expr → List Nat
  | literal _ => [0]
  | sum left right _ => (left.leafLevels ++ right.leafLevels).map (· + 1)

theorem length_leafLevels (e : Expr) : e.leafLevels.length = e.leafCount := by
  induction e with
  | literal value => rfl
  | sum left right flag ihl ihr =>
      rw [leafLevels, List.length_map, List.length_append, ihl, ihr, leafCount]

theorem depth_lt_leafCount (e : Expr) : e.depth < e.leafCount := by
  induction e with
  | literal value => exact Nat.zero_lt_one
  | sum left right flag ihl ihr =>
      rw [depth, leafCount]
      omega

theorem leafCount_le_two_pow_depth (e : Expr) : e.leafCount ≤ 2 ^ e.depth := by
  induction e with
  | literal value => exact Nat.le_refl 1
  | sum left right flag ihl ihr =>
      have hleft : 2 ^ left.depth ≤ 2 ^ max left.depth right.depth :=
        Nat.pow_le_pow_right Nat.two_pos (le_max_left _ _)
      have hright : 2 ^ right.depth ≤ 2 ^ max left.depth right.depth :=
        Nat.pow_le_pow_right Nat.two_pos (le_max_right _ _)
      rw [leafCount, depth, Nat.pow_add, Nat.pow_one, Nat.two_mul]
      exact Nat.add_le_add (ihl.trans hleft) (ihr.trans hright)

/-! ## Perfect expressions -/

/-- All literals stand below the same number of sums. -/
inductive Perfect : Nat → Expr → Prop
  | literal (value : UInt32) : Perfect 0 (literal value)
  | sum {depth : Nat} {left right : Expr} {flag : Bool} (left_perfect : Perfect depth left)
      (right_perfect : Perfect depth right) : Perfect (depth + 1) (sum left right flag)

namespace Perfect

variable {depth : Nat} {e : Expr}

theorem depth_eq (h : Perfect depth e) : e.depth = depth := by
  induction h with
  | literal value => rfl
  | sum left_perfect right_perfect ihl ihr =>
      rw [Expr.depth, ihl, ihr, Nat.max_self, Nat.add_comm]

theorem leafLevels_eq (h : Perfect depth e) : e.leafLevels = List.replicate (2 ^ depth) depth := by
  induction h with
  | literal value => rfl
  | sum left_perfect right_perfect ihl ihr =>
      rw [leafLevels, ihl, ihr, List.replicate_append_replicate, List.map_replicate, Nat.pow_succ,
        Nat.mul_two]

theorem leafCount_eq (h : Perfect depth e) : e.leafCount = 2 ^ depth := by
  rw [← length_leafLevels, h.leafLevels_eq, List.length_replicate]

end Perfect

end Expr

/-! ## The two ends of the probability of a literal -/

/-- No draw falls below the probability: it is no number, or zero or less. -/
def NeverReached (probability : Binary64) : Prop :=
  probability.value = .nan ∨ probability.AtMostZero

theorem fallsBelow_of_neverReached {probability : Binary64} (h : NeverReached probability)
    (draw : UnitDraw) : fallsBelow draw probability = false := by
  rcases h with hnan | hzero
  · exact Binary64.exceedsDyadic_of_nan hnan draw.val unitBits
  · exact Binary64.exceedsDyadic_of_atMostZero hzero draw.val unitBits

theorem fallsBelow_of_atLeastOne {probability : Binary64} (h : probability.AtLeastOne)
    (draw : UnitDraw) : fallsBelow draw probability = true :=
  Binary64.exceedsDyadic_of_atLeastOne h draw.isLt

variable {σ : Type} {source : Source σ} {growth : Growth}

namespace Expr

variable {depth : Nat} {s s' : σ} {e : Expr}

/-- As long as there is depth left a sum is made. -/
theorem Grown.perfect (hleaf : NeverReached growth.leafProbability)
    (h : Grown source growth depth s e s') : e.Perfect depth := by
  induction h with
  | bottom ignored drawn => exact .literal _
  | @leaf depth s s₁ s' draw value first low drawn =>
      rw [fallsBelow_of_neverReached hleaf draw] at low
      contradiction
  | sum first high grownLeft grownRight closing flagged ihl ihr => exact .sum ihl ihr

/-- No sum is made at all. -/
theorem Grown.exists_literal (hleaf : growth.leafProbability.AtLeastOne)
    (h : Grown source growth depth s e s') : ∃ value, e = literal value := by
  cases h with
  | bottom ignored drawn => exact ⟨_, rfl⟩
  | leaf first low drawn => exact ⟨_, rfl⟩
  | @sum depth s s₁ s₂ s₃ s' draw last left right flag first high =>
      rw [fallsBelow_of_atLeastOne hleaf draw] at high
      contradiction

end Expr

/-- What holds of every expression that can be grown holds of the samples. -/
theorem GrownSamples.forall_expr {p : Expr → Prop} {index : Nat} {s s' : σ} {samples : List Sample}
    (h : GrownSamples source growth index s samples s')
    (hexpr : ∀ s e s', Expr.Grown source growth growth.maxDepth.toNat s e s' → p e) :
    ∀ sample ∈ samples, p sample.expr := by
  induction h with
  | nil => exact List.forall_mem_nil _
  | cons grown later ih => exact List.forall_mem_cons.2 ⟨hexpr _ _ _ grown, ih⟩

/-- Grown expressions have at least one literal more than levels of sums, and at most as many as the
depth has room for.  If no draw falls below the probability of a literal all of that room is taken, and if
every draw does there is one literal.  At both ends all samples of a seed have one depth and one number of
literals. -/
theorem size_and_shape_of_grown (growth : Growth) (hbound : 0 < growth.literalBound) :
    (∀ (σ : Type) (source : Source σ) (s : σ) (depth : Nat), ∃ e s',
      Expr.grow? source growth depth s = some (e, s') ∧
      e.depth + 1 ≤ e.leafCount ∧ e.leafCount ≤ 2 ^ e.depth ∧ 2 ^ e.depth ≤ 2 ^ depth ∧
      (NeverReached growth.leafProbability →
        e.Perfect depth ∧ e.depth = depth ∧ e.leafCount = 2 ^ depth ∧
          e.leafLevels = List.replicate (2 ^ depth) depth) ∧
      (growth.leafProbability.AtLeastOne → ∃ value, e = .literal value)) ∧
    ∀ (count : UInt32) (seed : Int64), ∃ samples,
      grownSamples? count seed growth = some samples ∧ samples.length = count.toNat ∧
      (NeverReached growth.leafProbability → ∀ sample ∈ samples,
        sample.expr.depth = growth.maxDepth.toNat ∧
          sample.expr.leafCount = 2 ^ growth.maxDepth.toNat) ∧
      (growth.leafProbability.AtLeastOne → ∀ sample ∈ samples,
        sample.expr.depth = 0 ∧ sample.expr.leafCount = 1) := by
  refine ⟨?_, ?_⟩
  · intro σ source s depth
    obtain ⟨e, s', hrun⟩ := Expr.exists_grown source growth depth s
    have hdepth : e.depth ≤ depth := (hrun.within hbound).depth_le
    refine ⟨e, s', hrun.grow?_eq hbound, e.depth_lt_leafCount, e.leafCount_le_two_pow_depth,
      Nat.pow_le_pow_right Nat.two_pos hdepth, fun hleaf => ?_, hrun.exists_literal⟩
    have hperfect := hrun.perfect hleaf
    exact ⟨hperfect, hperfect.depth_eq, hperfect.leafCount_eq, hperfect.leafLevels_eq⟩
  · intro count seed
    obtain ⟨samples, last, hlength, hsamples⟩ := exists_grownSamples chachaSource growth
      count.toNat 1 (seeded seed.toUInt64)
    refine ⟨samples, hsamples.grownSamples?_eq hbound hlength, hlength, fun hleaf => ?_,
      fun hleaf => ?_⟩
    · have hperfect : ∀ sample ∈ samples, sample.expr.Perfect growth.maxDepth.toNat :=
        hsamples.forall_expr fun s e s' hrun => hrun.perfect hleaf
      exact fun sample hsample =>
        ⟨(hperfect sample hsample).depth_eq, (hperfect sample hsample).leafCount_eq⟩
    · have hliteral : ∀ sample ∈ samples, ∃ value, sample.expr = .literal value :=
        hsamples.forall_expr fun s e s' hrun => hrun.exists_literal hleaf
      intro sample hsample
      obtain ⟨value, hvalue⟩ := hliteral sample hsample
      rw [hvalue]
      exact ⟨rfl, rfl⟩

/-- A way of growing with the given probability of a literal. -/
def growthOf (probability : Binary64) : Growth :=
  { Expr.edgeGrowth with leafProbability := probability }

/-- With no number for a probability a depth of two gives four literals, and with an infinite one every
sample is a literal. -/
theorem size_and_shape_of_grown_extremes :
    0 < (growthOf .nan).literalBound ∧ NeverReached (growthOf .nan).leafProbability ∧
      0 < (growthOf (.infinity false)).literalBound ∧
      (growthOf (.infinity false)).leafProbability.AtLeastOne ∧
      (∃ e s', Expr.grow? playback (growthOf .nan) 2 ⟨[], [1, 2, 3, 4]⟩ = some (e, s') ∧
        e.leafLevels = [2, 2, 2, 2]) ∧
      ∃ samples, grownSamples? 3 1337 (growthOf (.infinity false)) = some samples ∧
        samples.length = 3 ∧ ∀ sample ∈ samples, sample.expr.depth = 0 ∧ sample.expr.leafCount = 1 := by
  have hnan : NeverReached (growthOf .nan).leafProbability := .inl (by decide)
  have hinfinite : (growthOf (.infinity false)).leafProbability.AtLeastOne :=
    ⟨⊤, by decide, le_top⟩
  have hbound : 0 < (growthOf .nan).literalBound := by decide
  have hbound' : 0 < (growthOf (.infinity false)).literalBound := by decide
  obtain ⟨e, s', hgrown, -, -, -, hperfect, -⟩ :=
    (size_and_shape_of_grown (growthOf .nan) hbound).1 Tape playback ⟨[], [1, 2, 3, 4]⟩ 2
  obtain ⟨samples, hsamples, hlength, -, hliterals⟩ :=
    (size_and_shape_of_grown (growthOf (.infinity false)) hbound').2 3 1337
  exact ⟨hbound, hnan, hbound', hinfinite, ⟨e, s', hgrown, (hperfect hnan).2.2.2⟩,
    samples, hsamples, hlength, hliterals hinfinite⟩

end SampleForge
