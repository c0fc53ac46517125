import SampleForge.Proofs.Expr.Requests
import SampleForge.Proofs.Generation.Plan

/-!
# Literals from an empty range

Without a literal to draw there are no samples, except for the count of zero: `growFrom?_eq_none_iff`.

The check of a request keeps such requests away.  `SampleRequest.InRange` is what it checks, and it is
exact, `check_eq_ok_iff_inRange`.  `empty_range_not_reached` goes through what becomes of a request: it is
refused and nothing is done, or its samples exist, and then its directory cannot be made or everything is
written.
-/

namespace SampleForge

open Files Numeric SampleForge.Random

/-! ## Samples without literals -/

section Samples

variable {σ : Type} {source : Source σ} {growth : Growth}

theorem growFrom?_eq_none_iff {remaining index : Nat} {done : List Sample} {s : σ} :
    growFrom? source growth remaining index done s = none ↔
      0 < remaining ∧ growth.literalBound = 0 := by
  by_cases hbound : growth.literalBound = 0
  · cases remaining with
    | zero =>
        refine ⟨fun h => ?_, fun h => absurd h.1 (Nat.lt_irrefl 0)⟩
        rw [growFrom?] at h
        contradiction
    | succ remaining =>
        -- The first of the samples is already missing.
        refine ⟨fun _ => ⟨Nat.succ_pos remaining, hbound⟩, fun _ => ?_⟩
        rw [growFrom?, Expr.grow?_of_zero hbound]
  · obtain ⟨samples, s', hlength, hsamples⟩ := exists_grownSamples source growth remaining index s
    rw [← hlength, hsamples.growFrom?_eq (UInt32.pos_iff_ne_zero.2 hbound)]
    exact ⟨fun h => absurd h (Option.some_ne_none _), fun h => absurd h.2 hbound⟩

theorem grownSamples?_eq_none_iff {count : UInt32} {seed : Int64} :
    grownSamples? count seed growth = none ↔ 0 < count.toNat ∧ growth.literalBound = 0 := by
  rw [grownSamples?, Option.map_eq_none_iff, growFrom?_eq_none_iff]

end Samples

/-! ## What is checked -/

/-- The value of a double is a number of the closed unit interval. -/
def IsProbability (x : Binary64) : Prop :=
  ∃ p, x.toRat? = some p ∧ 0 ≤ p ∧ p ≤ 1

theorem inUnitInterval_iff {x : Binary64} : x.inUnitInterval = true ↔ IsProbability x := by
  cases hvalue : x.toRat? with
  | none => simp [Binary64.inUnitInterval, IsProbability, hvalue]
  | some p => simp [Binary64.inUnitInterval, IsProbability, hvalue]

theorem not_inUnitInterval_iff {x : Binary64} : (!x.inUnitInterval) = true ↔ ¬ IsProbability x := by
  rw [Bool.not_eq_true', ← inUnitInterval_iff, Bool.not_eq_true]

/-- What is allowed for growing. -/
structure Growth.InRange (growth : Growth) : Prop where
  maxDepth : growth.maxDepth ≤ 32
  leafProbability : IsProbability growth.leafProbability
  parenProbability : IsProbability growth.parenProbability
  literalBound : 1 ≤ growth.literalBound

/-- The check passes exactly what is allowed. -/
theorem Growth.check_eq_ok_iff_inRange {growth : Growth} : growth.check = .ok () ↔ growth.InRange := by
  unfold check
  by_cases hdepth : depthLimit < growth.maxDepth
  · rw [if_pos hdepth]
    exact ⟨nofun, fun h => absurd h.maxDepth (UInt32.not_le.2 hdepth)⟩
  by_cases hleaf : (!growth.leafProbability.inUnitInterval) = true
  · rw [if_neg hdepth, if_pos hleaf]
    exact ⟨nofun, fun h => absurd h.leafProbability (not_inUnitInterval_iff.1 hleaf)⟩
  by_cases hparen : (!growth.parenProbability.inUnitInterval) = true
  · rw [if_neg hdepth, if_neg hleaf, if_pos hparen]
    exact ⟨nofun, fun h => absurd h.parenProbability (not_inUnitInterval_iff.1 hparen)⟩
  rw [if_neg hdepth, if_neg hleaf, if_neg hparen]
  by_cases hbound : growth.literalBound = 0
  · rw [if_pos hbound]
    refine ⟨nofun, fun h => ?_⟩
    have hone := h.literalBound
    rw [hbound] at hone
    exact absurd hone (by decide)
  · rw [if_neg hbound]
    refine ⟨fun _ => ⟨UInt32.not_lt.1 hdepth, ?_, ?_, ?_⟩, fun _ => rfl⟩
    · exact not_not.1 fun h => hleaf (not_inUnitInterval_iff.2 h)
    · exact not_not.1 fun h => hparen (not_inUnitInterval_iff.2 h)
    · exact UInt32.pos_iff_ne_zero.2 hbound

namespace SampleRequest

/-- What a request may ask for. -/
structure InRange (request : SampleRequest) : Prop where
  count : 1 ≤ request.count ∧ request.count ≤ 9999
  growth : request.growth.InRange

variable {request : SampleRequest}

theorem check_eq_ok_iff_inRange : request.check = .ok () ↔ request.InRange := by
  rw [check_eq_ok_iff, Growth.check_eq_ok_iff_inRange]
  constructor
  · rintro ⟨⟨hzero, hmost⟩, hgrowth⟩
    exact ⟨⟨UInt32.pos_iff_ne_zero.2 hzero, hmost⟩, hgrowth⟩
  · rintro ⟨⟨hone, hmost⟩, hgrowth⟩
    exact ⟨⟨UInt32.pos_iff_ne_zero.1 hone, hmost⟩, hgrowth⟩

/-! ## What becomes of a request -/

/-- What is reported when the writes of a request are done, or when one of them failed. -/
def report (request : SampleRequest) (samples : List Sample) :
    Except (String × OsError) Unit → Except GenerationError WrittenFiles
  | .error (path, error) => .error (.notWritten path error)
  | .ok () => .ok (request.files samples)

/-- What becomes of a request in a state of the system. -/
inductive Course {σ : Type} (perform : FileOperation → StateM σ (Except OsError Unit))
    (request : SampleRequest) (s : σ) : Except GenerationError WrittenFiles × σ → Prop
  /-- It is not in range, and nothing is done. -/
  | refused {cause : RequestError} (outside : ¬ request.InRange)
      (fault : request.check = .error cause) : Course perform request s (.error (.request cause), s)
  /-- It is in range, and its directory cannot be made. -/
  | noDirectory {error : OsError} {next : σ} (range : request.InRange)
      (failed : (perform (.makeDirs request.outDir)).run s = (.error error, next)) :
      Course perform request s (.error (.notWritten request.outDir error), next)
  /-- It is in range, its samples are there, and what comes of writing them is reported. -/
  | written {samples : List Sample} {next last : σ} {outcome : Except (String × OsError) Unit}
      (range : request.InRange) (grown : request.samples? = some samples)
      (number : samples.length = request.count.toNat)
      (made : (perform (.makeDirs request.outDir)).run s = (.ok (), next))
      (writing : (performAll perform (writeOperations (request.writes samples))).run next =
        (outcome, last)) : Course perform request s (request.report samples outcome, last)

theorem course_carryOut {σ : Type} (perform : FileOperation → StateM σ (Except OsError Unit))
    (request : SampleRequest) (s : σ) :
    Course perform request s ((request.carryOut perform).run s) := by
  cases hcheck : request.check with
  | error cause =>
      rw [run_carryOut_of_error perform hcheck]
      refine .refused (fun hrange => ?_) hcheck
      rw [check_eq_ok_iff_inRange.2 hrange] at hcheck
      cases hcheck
  | ok passed =>
      have hrange := check_eq_ok_iff_inRange.1 hcheck
      obtain ⟨samples, hsamples, hindex⟩ := exists_samples hcheck
      rw [run_carryOut perform hcheck hsamples, plan_eq, run_performAll_cons]
      cases hmade : (perform (.makeDirs request.outDir)).run s with
      | mk verdict next =>
          cases verdict with
          | error error => exact .noDirectory hrange hmade
          | ok made =>
              simp only
              cases hwriting :
                  (performAll perform (writeOperations (request.writes samples))).run next with
              | mk outcome last =>
                  have hnumber := length_eq_of_map_index hindex
                  have hcourse := Course.written hrange hsamples hnumber hmade hwriting
                  cases outcome with
                  | error failure => exact hcourse
                  | ok done => exact hcourse

end SampleRequest

/-- Samples are missing exactly if some are asked for and there is no literal to draw: every expression
asks for a literal before it is there.  No request comes to that.  It is refused before anything is done,
or it is in range, and then it has its samples whatever the system answers. -/
theorem empty_range_not_reached :
    (∀ (σ : Type) (source : Source σ) (growth : Growth) (s : σ),
      (∀ depth, Expr.grow? source growth depth s = none ↔ growth.literalBound = 0) ∧
      (∀ depth record, Expr.grow? source.recorded growth depth (s, record) =
        (Expr.grow? source growth depth s).map fun grown =>
          (grown.1, grown.2, record ++ grown.1.requests growth.literalBound)) ∧
      (∀ e : Expr, .below growth.literalBound ∈ e.requests growth.literalBound) ∧
      ∀ count index, growFrom? source growth count index [] s = none ↔
        1 ≤ count ∧ growth.literalBound = 0) ∧
    (∀ (count : UInt32) (seed : Int64) (growth : Growth),
      grownSamples? count seed growth = none ↔ 1 ≤ count ∧ growth.literalBound = 0) ∧
    ∀ (request : SampleRequest) (σ : Type) (perform : FileOperation → StateM σ (Except OsError Unit))
      (s : σ), request.Course perform s ((request.carryOut perform).run s) := by
  refine ⟨fun σ source growth s => ⟨fun depth => Expr.grow?_eq_none_iff,
    fun depth record => Expr.grow?_recorded depth s record,
    Expr.below_mem_requests growth.literalBound, fun count index => growFrom?_eq_none_iff⟩, ?_,
    fun request σ perform s => request.course_carryOut perform s⟩
  intro count seed growth
  rw [grownSamples?_eq_none_iff, UInt32.le_iff_toNat_le]
  rfl

end SampleForge
