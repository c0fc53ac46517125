import SampleForge.Proofs.Expr.Requests
import SampleForge.Proofs.Generation.Sizes

/-!
# The draws of a run

What a run asks the source for is settled by what it grows.  For one expression that is `Expr.requests`;
the samples of a run ask for theirs one after another and for nothing in between, `sampleRequests`.

So the draws can be counted without looking at the source.  `DrawCount bound uniforms literals record` says
that a record has so many uniform draws, so many draws below the bound, and no others.  Counts of two
records add up.  An expression of `n` literals has `n - 1` sums, and a sum takes two uniform draws where a
literal takes one and its value: that makes `3 * n - 2` of the first kind and `n` of the second.
-/

namespace SampleForge

open SampleForge.Random

/-! ## Counting draws -/

/-- A record of so many uniform draws, so many draws below the bound, and no others. -/
structure DrawCount (bound : UInt32) (uniforms literals : Nat) (record : List DrawRequest) : Prop where
  uniform : record.count .uniform = uniforms
  below : record.count (.below bound) = literals
  length : record.length = uniforms + literals

namespace DrawCount

variable {bound : UInt32} {u u' n n' : Nat} {record record' : List DrawRequest}

theorem nil : DrawCount bound 0 0 [] := ⟨rfl, rfl, rfl⟩

theorem uniform_singleton (bound : UInt32) : DrawCount bound 1 0 [.uniform] :=
  ⟨by simp, by simp, by simp⟩

theorem below_singleton (bound : UInt32) : DrawCount bound 0 1 [.below bound] :=
  ⟨by simp, by simp, by simp⟩

theorem append (h : DrawCount bound u n record) (h' : DrawCount bound u' n' record') :
    DrawCount bound (u + u') (n + n') (record ++ record') where
  uniform := by rw [List.count_append, h.uniform, h'.uniform]
  below := by rw [List.count_append, h.below, h'.below]
  length := by
    simp only [List.length_append, h.length, h'.length]
    omega

end DrawCount

namespace Expr

theorem drawCount_requests (bound : UInt32) (e : Expr) :
    DrawCount bound (3 * e.leafCount - 2) e.leafCount (e.requests bound) := by
  induction e with
  | literal value => exact (DrawCount.uniform_singleton bound).append (.below_singleton bound)
  | sum left right flag ihl ihr =>
      -- Both parts have a literal, so nothing is cut off by the subtractions.
      have hleft := left.depth_lt_leafCount
      have hright := right.depth_lt_leafCount
      have hcount := (DrawCount.uniform_singleton bound).append
        (ihl.append (ihr.append (.uniform_singleton bound)))
      have huniforms : 1 + (3 * left.leafCount - 2 + (3 * right.leafCount - 2 + 1)) =
          3 * (left.leafCount + right.leafCount) - 2 := by omega
      rw [huniforms, Nat.add_zero, Nat.zero_add] at hcount
      exact hcount

end Expr

/-! ## The samples of a run -/

/-- What is asked for while samples are grown. -/
def sampleRequests (bound : UInt32) (samples : List Sample) : List DrawRequest :=
  samples.flatMap fun sample => sample.expr.requests bound

/-- The literals of all samples together. -/
def literalCount (samples : List Sample) : Nat :=
  (samples.map fun sample => sample.expr.leafCount).sum

theorem length_le_literalCount (samples : List Sample) : samples.length ≤ literalCount samples := by
  induction samples with
  | nil => exact Nat.le_refl 0
  | cons sample samples ih =>
      have hpos := sample.expr.depth_lt_leafCount
      simp only [literalCount, List.map_cons, List.sum_cons, List.length_cons] at ih ⊢
      omega

theorem drawCount_sampleRequests (bound : UInt32) (samples : List Sample) :
    DrawCount bound (3 * literalCount samples - 2 * samples.length) (literalCount samples)
      (sampleRequests bound samples) := by
  induction samples with
  | nil => exact .nil
  | cons sample samples ih =>
      have hpos := sample.expr.depth_lt_leafCount
      have hle := length_le_literalCount samples
      have hcount := (sample.expr.drawCount_requests bound).append ih
      have huniforms : 3 * sample.expr.leafCount - 2 +
          (3 * literalCount samples - 2 * samples.length) =
          3 * (sample.expr.leafCount + literalCount samples) - 2 * (samples.length + 1) := by omega
      rw [huniforms] at hcount
      exact hcount

variable {σ : Type} {source : Source σ} {growth : Growth}

/-- A run on the recorded source grows the same samples and has them on record. -/
theorem GrownSamples.recorded {index : Nat} {s s' : σ} {samples : List Sample}
    (h : GrownSamples source growth index s samples s') (record : List DrawRequest) :
    GrownSamples source.recorded growth index (s, record) samples
      (s', record ++ sampleRequests growth.literalBound samples) := by
  induction h generalizing record with
  | @nil index s =>
      rw [sampleRequests, List.flatMap_nil, List.append_nil]
      exact .nil
  | @cons index s next s' expr samples grown later ih =>
      have hlater := ih (record ++ expr.requests growth.literalBound)
      rw [List.append_assoc] at hlater
      exact .cons (grown.recorded record) hlater

/-- Samples are grown from every state, and a record of their draws is that of one sample after another. -/
theorem exists_growFrom?_recorded (hbound : 0 < growth.literalBound) (source : Source σ)
    (s : σ) (count index : Nat) (record : List DrawRequest) : ∃ samples s',
    samples.length = count ∧ growFrom? source growth count index [] s = some (samples, s') ∧
    growFrom? source.recorded growth count index [] (s, record) =
      some (samples, s', record ++ sampleRequests growth.literalBound samples) := by
  obtain ⟨samples, s', rfl, hrun⟩ := exists_grownSamples source growth count index s
  exact ⟨samples, s', rfl, hrun.growFrom?_eq hbound [], (hrun.recorded record).growFrom?_eq hbound []⟩

/-- The draws of an expression are those that can be read off it, and the draws of samples are those of
their expressions, with none before, between or behind them.  So `n` literals take `3 * n - 2` uniform
draws if they stand in one expression, and `3 * n - 2 * count` if they stand in `count` samples. -/
theorem draws_settled_by_grown (growth : Growth) (hbound : 0 < growth.literalBound) :
    (∀ (σ : Type) (source : Source σ) (s : σ) (depth : Nat) (record : List DrawRequest), ∃ e s',
      Expr.grow? source growth depth s = some (e, s') ∧
      Expr.grow? source.recorded growth depth (s, record) =
        some (e, s', record ++ e.requests growth.literalBound) ∧
      DrawCount growth.literalBound (3 * e.leafCount - 2) e.leafCount
        (e.requests growth.literalBound)) ∧
    (∀ (σ : Type) (source : Source σ) (s : σ) (count index : Nat) (record : List DrawRequest),
      ∃ samples s', growFrom? source growth count index [] s = some (samples, s') ∧
      growFrom? source.recorded growth count index [] (s, record) =
        some (samples, s', record ++ sampleRequests growth.literalBound samples) ∧
      DrawCount growth.literalBound (3 * literalCount samples - 2 * count) (literalCount samples)
        (sampleRequests growth.literalBound samples)) ∧
    ∀ (count : UInt32) (seed : Int64), ∃ samples last,
      grownSamples? count seed growth = some samples ∧
      growFrom? chachaSource.recorded growth count.toNat 1 [] (seeded seed.toUInt64, []) =
        some (samples, last, sampleRequests growth.literalBound samples) ∧
      DrawCount growth.literalBound (3 * literalCount samples - 2 * count.toNat)
        (literalCount samples) (sampleRequests growth.literalBound samples) := by
  refine ⟨?_, ?_, ?_⟩
  · intro σ source s depth record
    obtain ⟨e, s', hrun⟩ := Expr.exists_grown source growth depth s
    exact ⟨e, s', hrun.grow?_eq hbound, (hrun.recorded record).grow?_eq hbound,
      e.drawCount_requests growth.literalBound⟩
  · intro σ source s count index record
    obtain ⟨samples, s', hlength, hgrown, hrecorded⟩ :=
      exists_growFrom?_recorded hbound source s count index record
    refine ⟨samples, s', hgrown, hrecorded, ?_⟩
    rw [← hlength]
    exact drawCount_sampleRequests growth.literalBound samples
  · intro count seed
    obtain ⟨samples, last, hlength, hgrown, hrecorded⟩ :=
      exists_growFrom?_recorded hbound chachaSource (seeded seed.toUInt64) count.toNat 1 []
    refine ⟨samples, last, ?_, hrecorded, ?_⟩
    · rw [grownSamples?, hgrown]
      rfl
    · rw [← hlength]
      exact drawCount_sampleRequests growth.literalBound samples

/-- The first two samples of the built-in request have eight literals, for which there are twenty uniform
draws. -/
theorem draws_settled_by_grown_two :
    0 < Growth.default.literalBound ∧ ∃ samples last record,
      grownSamples? 2 1337 Growth.default = some samples ∧
      growFrom? chachaSource.recorded Growth.default 2 1 [] (seeded 1337, []) =
        some (samples, last, record) ∧
      record.count .uniform = 20 ∧ record.count (.below 1000) = 8 ∧ record.length = 28 := by
  have hbound : 0 < Growth.default.literalBound := by decide
  have hliterals : (grownSamples? 2 1337 Growth.default).map literalCount = some 8 := by
    decide +kernel
  obtain ⟨samples, last, hsamples, hrecorded, hcount⟩ :=
    (draws_settled_by_grown Growth.default hbound).2.2 2 1337
  rw [hsamples] at hliterals
  rw [Option.some.inj hliterals] at hcount
  exact ⟨hbound, samples, last, _, hsamples, hrecorded, hcount.uniform, hcount.below, hcount.length⟩

end SampleForge
