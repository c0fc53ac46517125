import SampleForge.Proofs.Expr.Growing

/-!
# What a source is asked for

`Source.recorded` answers like the source it is made from and keeps a record of what it was asked for
beside the state.  What is asked for while an expression is grown can be read off the expression: a
literal takes one draw of each kind, and a sum asks once before its parts and once after them,
`Expr.requests`.  So there is no expression without a literal having been asked for.

Growing fails exactly if there is no literal to be drawn, whatever the source answers and however deep it
goes, `grow?_eq_none_iff`.
-/

namespace SampleForge

open SampleForge.Random

/-- What a source is asked for. -/
inductive DrawRequest where
  | uniform
  | below (bound : UInt32)
deriving DecidableEq

variable {σ : Type}

/-- The source with a record of its requests, the latest last. -/
def Random.Source.recorded (source : Source σ) : Source (σ × List DrawRequest) where
  uniform state :=
    let (draw, next) := source.uniform state.1
    (draw, next, state.2 ++ [.uniform])
  below bound state :=
    let (value, next) := source.below bound state.1
    (value, next, state.2 ++ [.below bound])
  below_lt bound state hbound := source.below_lt bound state.1 hbound

variable {source : Source σ} {growth : Growth}

theorem recorded_uniform {s next : σ} {draw : UnitDraw} (h : source.uniform s = (draw, next))
    (record : List DrawRequest) :
    source.recorded.uniform (s, record) = (draw, next, record ++ [.uniform]) := by
  simp only [Random.Source.recorded, h]

theorem recorded_below {s next : σ} {bound value : UInt32} (h : source.below bound s = (value, next))
    (record : List DrawRequest) :
    source.recorded.below bound (s, record) = (value, next, record ++ [.below bound]) := by
  simp only [Random.Source.recorded, h]

namespace Expr

/-- What is asked for while an expression is grown from literals below a bound, in order. -/
def requests (bound : UInt32) : Expr → List DrawRequest
  | literal _ => [.uniform, .below bound]
  | sum left right _ => .uniform :: (left.requests bound ++ (right.requests bound ++ [.uniform]))

theorem below_mem_requests (bound : UInt32) (e : Expr) : DrawRequest.below bound ∈ e.requests bound := by
  induction e with
  | literal value => exact List.mem_cons_of_mem _ List.mem_cons_self
  | sum left right flag ihl ihr => exact List.mem_cons_of_mem _ (List.mem_append_left _ ihl)

/-- A run on the recorded source goes like the run on the source. -/
theorem Grown.recorded {depth : Nat} {s s' : σ} {e : Expr} (h : Grown source growth depth s e s')
    (record : List DrawRequest) :
    Grown source.recorded growth depth (s, record) e
      (s', record ++ e.requests growth.literalBound) := by
  induction h generalizing record with
  | bottom ignored drawn =>
      have hdrawn := recorded_below drawn (record ++ [.uniform])
      rw [List.append_assoc] at hdrawn
      exact .bottom (recorded_uniform ignored record) hdrawn
  | leaf first low drawn =>
      have hdrawn := recorded_below drawn (record ++ [.uniform])
      rw [List.append_assoc] at hdrawn
      exact .leaf (recorded_uniform first record) low hdrawn
  | @sum depth s s₁ s₂ s₃ s' draw last left right flag first high grownLeft grownRight closing flagged
      ihl ihr =>
      have hrequests : record ++ (Expr.sum left right flag).requests growth.literalBound =
          record ++ [.uniform] ++ left.requests growth.literalBound ++
            right.requests growth.literalBound ++ [.uniform] := by
        simp [requests]
      rw [hrequests]
      exact .sum (recorded_uniform first record) high (ihl _) (ihr _) (recorded_uniform closing _) flagged

/-! ## Growing without a literal to draw -/

theorem growLiteral?_of_zero {bound : UInt32} (hbound : bound = 0) (s : σ) :
    growLiteral? source bound s = none := by
  rw [hbound]
  rfl

/-- However the draws decide, the first literal that is asked for is missing. -/
theorem grow?_of_zero (hbound : growth.literalBound = 0) (depth : Nat) (s : σ) :
    grow? source growth depth s = none := by
  induction depth generalizing s with
  | zero => rw [grow?_zero, growLiteral?_of_zero hbound]
  | succ depth ih =>
      cases hdraw : fallsBelow (source.uniform s).1 growth.leafProbability with
      | true => rw [grow?_succ_of_low hdraw, growLiteral?_of_zero hbound]
      | false => rw [grow?_succ_of_high hdraw, ih, Option.bind_none]

theorem exists_grow?_eq (hbound : 0 < growth.literalBound) (depth : Nat) (s : σ) :
    ∃ e s', grow? source growth depth s = some (e, s') := by
  obtain ⟨e, s', hrun⟩ := exists_grown source growth depth s
  exact ⟨e, s', hrun.grow?_eq hbound⟩

theorem grow?_eq_none_iff {depth : Nat} {s : σ} :
    grow? source growth depth s = none ↔ growth.literalBound = 0 := by
  constructor
  · intro hnone
    by_contra hbound
    obtain ⟨e, s', hgrown⟩ : ∃ e s', grow? source growth depth s = some (e, s') :=
      exists_grow?_eq (UInt32.pos_iff_ne_zero.2 hbound) depth s
    rw [hnone] at hgrown
    contradiction
  · exact fun hbound => grow?_of_zero hbound depth s

/-- What comes of growing with a record, in terms of what comes of it without. -/
theorem grow?_recorded (depth : Nat) (s : σ) (record : List DrawRequest) :
    grow? source.recorded growth depth (s, record) =
      (grow? source growth depth s).map fun grown =>
        (grown.1, grown.2, record ++ grown.1.requests growth.literalBound) := by
  by_cases hbound : growth.literalBound = 0
  · rw [grow?_of_zero hbound, grow?_of_zero hbound]
    rfl
  · have hpos : 0 < growth.literalBound := UInt32.pos_iff_ne_zero.2 hbound
    obtain ⟨e, s', hrun⟩ := exists_grown source growth depth s
    rw [hrun.grow?_eq hpos, (hrun.recorded record).grow?_eq hpos]
    rfl

end Expr
end SampleForge
