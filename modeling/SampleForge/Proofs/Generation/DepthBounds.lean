import SampleForge.Proofs.Expr.Language
import SampleForge.Proofs.Generation.Samples

/-!
# Depth bounds that are not reached

A run of the growth that stays above its depth bound is a run for every bound with room for what it has
grown, `Grown.of_depth_lt`: no part of it was forced to be a literal.  The draws and the states between
them are the same, so what comes after it starts in the same state.

Two bounds therefore give one seed the same samples as long as none of them is as deep as the smaller
bound.  `takeWhile_shallower_eq` says so of the samples before the first such one in either list; that
sample itself may already differ.
-/

namespace SampleForge

open SampleForge.Random

variable {σ : Type} {source : Source σ} {growth : Growth}

namespace Expr

/-- The bound of a run that stays above it may be moved. -/
theorem Grown.of_depth_lt {depth depth' : Nat} {s s' : σ} {e : Expr}
    (h : Grown source growth depth s e s') (hshallow : e.depth < depth) (hroom : e.depth ≤ depth') :
    Grown source growth depth' s e s' := by
  induction h generalizing depth' with
  | bottom ignored drawn => exact absurd hshallow (Nat.lt_irrefl 0)
  | leaf first low drawn =>
      -- With no room left the low draw is made all the same, and nobody looks at it.
      cases depth' with
      | zero => exact .bottom first drawn
      | succ depth' => exact .leaf first low drawn
  | sum first high grownLeft grownRight closing flagged ihl ihr =>
      rw [Expr.depth] at hshallow hroom
      cases depth' with
      | zero => omega
      | succ depth' =>
          exact .sum first high (ihl (by omega) (by omega)) (ihr (by omega) (by omega)) closing flagged

/-- The bound that a way of growing names is the one it starts with, and plays no part below. -/
theorem Grown.withMaxDepth {depth : Nat} {s s' : σ} {e : Expr} (h : Grown source growth depth s e s')
    (bound : UInt32) : Grown source { growth with maxDepth := bound } depth s e s' := by
  induction h with
  | bottom ignored drawn => exact .bottom ignored drawn
  | leaf first low drawn => exact .leaf first low drawn
  | sum first high grownLeft grownRight closing flagged ihl ihr =>
      exact .sum first high ihl ihr closing flagged

/-- Runs with two bounds end alike if the first stays above its own and has room under the other. -/
theorem Grown.eq_of_depth_lt (hbound : 0 < growth.literalBound) {bound₁ bound₂ : UInt32}
    {s s₁ s₂ : σ} {e₁ e₂ : Expr}
    (h₁ : Grown source { growth with maxDepth := bound₁ } bound₁.toNat s e₁ s₁)
    (h₂ : Grown source { growth with maxDepth := bound₂ } bound₂.toNat s e₂ s₂)
    (hshallow : e₁.depth < bound₁.toNat) (hroom : e₁.depth ≤ bound₂.toNat) : e₁ = e₂ ∧ s₁ = s₂ := by
  have hmoved : Grown source { growth with maxDepth := bound₂ } bound₂.toNat s e₁ s₁ :=
    (h₁.of_depth_lt hshallow hroom).withMaxDepth bound₂
  refine hmoved.unique ?_ h₂
  exact hbound

end Expr

/-- The expression of the sample has less than the given depth. -/
def Sample.shallower (depth : Nat) (sample : Sample) : Bool := decide (sample.expr.depth < depth)

/-- Samples that are grown from the same state with two bounds agree up to the first that is as deep
as the smaller one. -/
theorem GrownSamples.takeWhile_shallower_eq (hbound : 0 < growth.literalBound)
    {bound₁ bound₂ : UInt32} {index : Nat} {s s₁ s₂ : σ} {samples₁ samples₂ : List Sample}
    (h₁ : GrownSamples source { growth with maxDepth := bound₁ } index s samples₁ s₁)
    (h₂ : GrownSamples source { growth with maxDepth := bound₂ } index s samples₂ s₂)
    (hlength : samples₁.length = samples₂.length) :
    samples₁.takeWhile (Sample.shallower (min bound₁.toNat bound₂.toNat)) =
      samples₂.takeWhile (Sample.shallower (min bound₁.toNat bound₂.toNat)) := by
  induction h₁ generalizing samples₂ with
  | nil => rw [List.length_eq_zero_iff.1 hlength.symm]
  | @cons index s next₁ s₁ expr₁ samples₁ grown₁ later₁ ih =>
      cases h₂ with
      | nil => cases hlength
      | @cons _ _ next₂ _ expr₂ samples₂ grown₂ later₂ =>
          by_cases hfirst : expr₁.depth < min bound₁.toNat bound₂.toNat
          · obtain ⟨rfl, rfl⟩ := grown₁.eq_of_depth_lt hbound grown₂ (by omega) (by omega)
            have hkept : Sample.shallower (min bound₁.toNat bound₂.toNat) ⟨index, expr₁⟩ = true :=
              decide_eq_true hfirst
            rw [List.takeWhile_cons_of_pos hkept, List.takeWhile_cons_of_pos hkept,
              ih later₂ (Nat.succ.inj hlength)]
          · -- Were the other one shallow, it would be the first one.
            have hsecond : ¬ expr₂.depth < min bound₁.toNat bound₂.toNat := by
              intro hshallow
              obtain ⟨rfl, -⟩ := grown₂.eq_of_depth_lt hbound grown₁ (by omega) (by omega)
              exact hfirst hshallow
            rw [List.takeWhile_cons_of_neg (by simpa [Sample.shallower] using hfirst),
              List.takeWhile_cons_of_neg (by simpa [Sample.shallower] using hsecond)]

/-- The depth bound matters only when it is reached.  An expression that is grown with less depth than
its bound allows is grown with every bound that leaves room for it, and the same state is left behind.
The samples of a seed under two bounds agree until one of them is as deep as the smaller bound. -/
theorem depth_bound_matters_when_reached (growth : Growth) (hbound : 0 < growth.literalBound) :
    (∀ (σ : Type) (source : Source σ) (s : σ) (depth : Nat), ∃ e s',
      Expr.grow? source growth depth s = some (e, s') ∧
        (e.depth < depth → ∀ depth', e.depth ≤ depth' →
          Expr.grow? source growth depth' s = some (e, s'))) ∧
    ∀ (count : UInt32) (seed : Int64) (bound₁ bound₂ : UInt32), ∃ samples₁ samples₂,
      grownSamples? count seed { growth with maxDepth := bound₁ } = some samples₁ ∧
      grownSamples? count seed { growth with maxDepth := bound₂ } = some samples₂ ∧
      samples₁.length = count.toNat ∧ samples₂.length = count.toNat ∧
      samples₁.takeWhile (Sample.shallower (min bound₁.toNat bound₂.toNat)) =
        samples₂.takeWhile (Sample.shallower (min bound₁.toNat bound₂.toNat)) := by
  refine ⟨?_, ?_⟩
  · intro σ source s depth
    obtain ⟨e, s', hrun⟩ := Expr.exists_grown source growth depth s
    refine ⟨e, s', hrun.grow?_eq hbound, fun hshallow depth' hroom => ?_⟩
    exact (hrun.of_depth_lt hshallow hroom).grow?_eq hbound
  · intro count seed bound₁ bound₂
    obtain ⟨samples₁, last₁, hlength₁, hsamples₁⟩ := exists_grownSamples chachaSource
      { growth with maxDepth := bound₁ } count.toNat 1 (seeded seed.toUInt64)
    obtain ⟨samples₂, last₂, hlength₂, hsamples₂⟩ := exists_grownSamples chachaSource
      { growth with maxDepth := bound₂ } count.toNat 1 (seeded seed.toUInt64)
    exact ⟨samples₁, samples₂, hsamples₁.grownSamples?_eq hbound hlength₁,
      hsamples₂.grownSamples?_eq hbound hlength₂, hlength₁, hlength₂,
      hsamples₁.takeWhile_shallower_eq hbound hsamples₂ (hlength₁.trans hlength₂.symm)⟩

/-- The draws of a sum of two literals, and one more. -/
def sumTape : Tape :=
  ⟨[highestDraw, lowestDraw, lowestDraw, lowestDraw, highestDraw], [3, 9, 5]⟩

/-- A sum of literals that is grown with a bound of three is grown with one and with thirty-two, and the
tape ends up the same. -/
theorem depth_bound_matters_when_reached_sum :
    0 < Expr.edgeGrowth.literalBound ∧ ∃ s',
      Expr.grow? playback Expr.edgeGrowth 3 sumTape =
        some (.sum (.literal 3) (.literal 9) true, s') ∧
      Expr.grow? playback Expr.edgeGrowth 1 sumTape =
        some (.sum (.literal 3) (.literal 9) true, s') ∧
      Expr.grow? playback Expr.edgeGrowth 32 sumTape =
        some (.sum (.literal 3) (.literal 9) true, s') := by
  have hbound : 0 < Expr.edgeGrowth.literalBound := by decide
  have hsum : (Expr.grow? playback Expr.edgeGrowth 3 sumTape).map Prod.fst =
      some (.sum (.literal 3) (.literal 9) true) := by decide
  obtain ⟨e, s', hgrown, hmoved⟩ :=
    (depth_bound_matters_when_reached Expr.edgeGrowth hbound).1 Tape playback sumTape 3
  rw [hgrown] at hsum
  obtain rfl : e = .sum (.literal 3) (.literal 9) true := Option.some.inj hsum
  exact ⟨hbound, s', hgrown, hmoved (by decide) 1 (by decide), hmoved (by decide) 32 (by decide)⟩

/-- With the bound reached, one more level of depth makes another expression of the same draws. -/
example : (Expr.grow? playback Expr.edgeGrowth 1 ⟨List.replicate 9 highestDraw, [1, 2, 3, 4]⟩).map
      (fun grown => grown.1.depth) = some 1 ∧
    (Expr.grow? playback Expr.edgeGrowth 2 ⟨List.replicate 9 highestDraw, [1, 2, 3, 4]⟩).map
      (fun grown => grown.1.depth) = some 2 := by
  decide

end SampleForge
