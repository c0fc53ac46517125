import SampleForge.Proofs.Expr.Language
import SampleForge.Proofs.Generation.Samples

/-!
# What the probability of parentheses decides

The draw for the parentheses of a sum is made when both its parts are grown, whatever comes of it.  So
two runs that differ in nothing but the probability of parentheses make the same draws in the same
states, and what they grow differs in nothing but the flags of sums.  `Expr.bare` takes the parentheses
away and `Expr.flags` lists the flags, sum by sum.

A draw that falls below a probability falls below every larger one, `fallsBelow_of_atMost`.  With the
larger probability a sum therefore keeps the parentheses it has with the smaller: `Expr.GainsParens`.
It holds of the runs of one expression, `Grown.exists_gainsParens`, and is carried from sample to sample
along the states between them, `GrownSamples.exists_gainsParens`.
-/

namespace SampleForge

open Numeric SampleForge.Random

theorem fallsBelow_of_atMost {p q : Binary64} (hle : p.AtMost q) {draw : UnitDraw}
    (h : fallsBelow draw p = true) : fallsBelow draw q = true :=
  Binary64.exceedsDyadic_of_atMost hle h

variable {σ : Type} {source : Source σ} {growth : Growth} {p q : Binary64}

namespace Expr

/-- The expression without its parentheses. -/
def bare : Expr → Expr
  | literal value => literal value
  | sum left right _ => sum left.bare right.bare false

/-- Which sums are in parentheses: the outermost first, then those of its left and of its right part. -/
def flags : Expr → List Bool
  | literal _ => []
  | sum left right parenthesized => parenthesized :: (left.flags ++ right.flags)

@[simp] theorem depth_bare (e : Expr) : e.bare.depth = e.depth := by
  induction e with
  | literal value => rfl
  | sum left right flag ihl ihr => rw [bare, depth, depth, ihl, ihr]

@[simp] theorem leafCount_bare (e : Expr) : e.bare.leafCount = e.leafCount := by
  induction e with
  | literal value => rfl
  | sum left right flag ihl ihr => rw [bare, leafCount, leafCount, ihl, ihr]

/-- The second expression is the first with parentheses around more of its sums. -/
structure GainsParens (e f : Expr) : Prop where
  bare : e.bare = f.bare
  flags : List.Forall₂ (fun flag flag' => flag = true → flag' = true) e.flags f.flags

namespace GainsParens

variable {e f left left' right right' : Expr} {flag flag' : Bool}

theorem literal (value : UInt32) : GainsParens (literal value) (literal value) := ⟨rfl, .nil⟩

theorem sum (hleft : GainsParens left left') (hright : GainsParens right right')
    (hflag : flag = true → flag' = true) :
    GainsParens (sum left right flag) (sum left' right' flag') where
  bare := by rw [Expr.bare, Expr.bare, hleft.bare, hright.bare]
  flags := .cons hflag (List.rel_append hleft.flags hright.flags)

theorem depth_eq (h : GainsParens e f) : e.depth = f.depth := by
  rw [← depth_bare e, h.bare, depth_bare]

theorem leafCount_eq (h : GainsParens e f) : e.leafCount = f.leafCount := by
  rw [← leafCount_bare e, h.bare, leafCount_bare]

end GainsParens

/-- With a larger probability of parentheses the same draws grow the same sums, with parentheses around
more of them, and leave the same state behind. -/
theorem Grown.exists_gainsParens (hle : p.AtMost q) {depth : Nat} {s s' : σ} {e : Expr}
    (h : Grown source { growth with parenProbability := p } depth s e s') :
    ∃ f, Grown source { growth with parenProbability := q } depth s f s' ∧ GainsParens e f := by
  induction h with
  | @bottom s s₁ s' draw value ignored drawn =>
      exact ⟨.literal value, .bottom ignored drawn, .literal value⟩
  | @leaf depth s s₁ s' draw value first low drawn =>
      exact ⟨.literal value, .leaf first low drawn, .literal value⟩
  | @sum depth s s₁ s₂ s₃ s' draw last left right flag first high grownLeft grownRight closing flagged
      ihl ihr =>
      obtain ⟨left', hleft, hleft'⟩ := ihl
      obtain ⟨right', hright, hright'⟩ := ihr
      refine ⟨.sum left' right' (fallsBelow last q), .sum first high hleft hright closing rfl,
        hleft'.sum hright' fun hflag => fallsBelow_of_atMost hle ?_⟩
      exact flagged.trans hflag

end Expr

/-- The samples have one number, and the expression of the second has the parentheses of the first and
maybe more. -/
structure Sample.GainsParens (sample sample' : Sample) : Prop where
  index : sample.index = sample'.index
  expr : sample.expr.GainsParens sample'.expr
  depth : sample.expr.depth = sample'.expr.depth
  leafCount : sample.expr.leafCount = sample'.expr.leafCount

theorem GrownSamples.exists_gainsParens (hle : p.AtMost q) {index : Nat} {s s' : σ}
    {samples : List Sample}
    (h : GrownSamples source { growth with parenProbability := p } index s samples s') :
    ∃ samples', GrownSamples source { growth with parenProbability := q } index s samples' s' ∧
      List.Forall₂ Sample.GainsParens samples samples' := by
  induction h with
  | nil => exact ⟨[], .nil, .nil⟩
  | @cons index s next s' expr samples grown later ih =>
      obtain ⟨expr', hgrown, hexpr⟩ := grown.exists_gainsParens hle
      obtain ⟨samples', hlater, hsamples⟩ := ih
      exact ⟨⟨index, expr'⟩ :: samples', .cons hgrown hlater,
        .cons ⟨rfl, hexpr, hexpr.depth_eq, hexpr.leafCount_eq⟩ hsamples⟩

/-- The probability of parentheses decides about parentheses only.  From every source and state two of
them grow one expression but for its parentheses, of which the larger probability takes none away, and
leave one state behind.  The samples of a seed correspond one to one in the same way. -/
theorem parenProbability_decides_parentheses_only (growth : Growth)
    (hbound : 0 < growth.literalBound) {p q : Binary64} (hle : p.AtMost q) :
    (∀ (σ : Type) (source : Source σ) (s : σ) (depth : Nat), ∃ e f s',
      Expr.grow? source { growth with parenProbability := p } depth s = some (e, s') ∧
      Expr.grow? source { growth with parenProbability := q } depth s = some (f, s') ∧
      e.GainsParens f) ∧
    ∀ (count : UInt32) (seed : Int64), ∃ samples samples',
      grownSamples? count seed { growth with parenProbability := p } = some samples ∧
      grownSamples? count seed { growth with parenProbability := q } = some samples' ∧
      samples.length = count.toNat ∧ List.Forall₂ Sample.GainsParens samples samples' := by
  refine ⟨?_, ?_⟩
  · intro σ source s depth
    obtain ⟨e, s', hrun⟩ :=
      Expr.exists_grown source { growth with parenProbability := p } depth s
    obtain ⟨f, hrun', hparens⟩ := hrun.exists_gainsParens hle
    refine ⟨e, f, s', hrun.grow?_eq ?_, hrun'.grow?_eq ?_, hparens⟩
    · exact hbound
    · exact hbound
  · intro count seed
    obtain ⟨samples, last, hlength, hsamples⟩ := exists_grownSamples chachaSource
      { growth with parenProbability := p } count.toNat 1 (seeded seed.toUInt64)
    obtain ⟨samples', hsamples', hparens⟩ := hsamples.exists_gainsParens hle
    exact ⟨samples, samples', hsamples.grownSamples?_eq hbound hlength,
      hsamples'.grownSamples?_eq hbound (hparens.length_eq.symm.trans hlength), hlength, hparens⟩

/-- The probability of one half. -/
def evenChance : Binary64 := ⟨0x3FE0000000000000⟩

/-- The probability of one. -/
def certainty : Binary64 := ⟨0x3FF0000000000000⟩

theorem evenChance_atMost_certainty : evenChance.AtMost certainty := by
  have heven : evenChance.toRat? = some (1 / 2) := by
    have hvalue : evenChance.value = .finite false 4503599627370496 (-53) := by decide
    norm_num [Binary64.toRat?, hvalue]
  have hcertain : certainty.toRat? = some 1 := by
    have hvalue : certainty.value = .finite false 4503599627370496 (-52) := by decide
    norm_num [Binary64.toRat?, hvalue]
  exact Binary64.atMost_of_toRat? heven hcertain (by norm_num)

/-- The draws of a sum of two literals, the last one above one half. -/
def closingTape : Tape := ⟨[highestDraw, lowestDraw, lowestDraw, highestDraw], [3, 9]⟩

/-- A sum gains parentheses when their probability goes from one half to one. -/
theorem parenProbability_decides_parentheses_only_sum :
    0 < Expr.edgeGrowth.literalBound ∧ evenChance.AtMost certainty ∧ ∃ s',
      Expr.grow? playback { Expr.edgeGrowth with parenProbability := evenChance } 2 closingTape =
        some (.sum (.literal 3) (.literal 9) false, s') ∧
      Expr.grow? playback { Expr.edgeGrowth with parenProbability := certainty } 2 closingTape =
        some (.sum (.literal 3) (.literal 9) true, s') := by
  have hbound : 0 < Expr.edgeGrowth.literalBound := by decide
  have heven : (Expr.grow? playback { Expr.edgeGrowth with parenProbability := evenChance } 2
      closingTape).map Prod.fst = some (.sum (.literal 3) (.literal 9) false) := by decide
  have hcertain : (Expr.grow? playback { Expr.edgeGrowth with parenProbability := certainty } 2
      closingTape).map Prod.fst = some (.sum (.literal 3) (.literal 9) true) := by decide
  obtain ⟨e, f, s', he, hf, -⟩ := (parenProbability_decides_parentheses_only Expr.edgeGrowth hbound
    evenChance_atMost_certainty).1 Tape playback closingTape 2
  rw [he] at heven
  rw [hf] at hcertain
  obtain rfl : e = .sum (.literal 3) (.literal 9) false := Option.some.inj heven
  obtain rfl : f = .sum (.literal 3) (.literal 9) true := Option.some.inj hcertain
  exact ⟨hbound, evenChance_atMost_certainty, s', he, hf⟩

end SampleForge
