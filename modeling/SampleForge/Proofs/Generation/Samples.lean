import SampleForge.Generation.Run
import SampleForge.Proofs.Expr.Growing

/-!
# The samples of a request

`GrownSamples source growth index s samples s'` says that the samples, numbered one after another from
`index`, are grown in turn from the state `s` and leave the state `s'`.  As long as there is a literal to
draw, the function for a number of samples finds the run of that length, `GrownSamples.growFrom?_eq`.

A request that passes its check has a literal to draw.  So it has samples, as many as it asks for,
numbered from one: `SampleRequest.exists_samples`.
-/

namespace SampleForge

open Numeric SampleForge.Random

variable {σ : Type} {source : Source σ} {growth : Growth}

/-- Samples grown one after another. -/
inductive GrownSamples (source : Source σ) (growth : Growth) : Nat → σ → List Sample → σ → Prop
  | nil {index : Nat} {s : σ} : GrownSamples source growth index s [] s
  | cons {index : Nat} {s next s' : σ} {expr : Expr} {samples : List Sample}
      (grown : Expr.Grown source growth growth.maxDepth.toNat s expr next)
      (later : GrownSamples source growth (index + 1) next samples s') :
      GrownSamples source growth index s (⟨index, expr⟩ :: samples) s'

theorem growFrom?_succ {s next : σ} {expr : Expr} {index : Nat}
    (hexpr : Expr.grow? source growth growth.maxDepth.toNat s = some (expr, next))
    (remaining : Nat) (done : List Sample) :
    growFrom? source growth (remaining + 1) index done s =
      growFrom? source growth remaining (index + 1) (⟨index, expr⟩ :: done) next := by
  rw [growFrom?, hexpr]

/-- There is a run of every length from every state. -/
theorem exists_grownSamples (source : Source σ) (growth : Growth) (count index : Nat) (s : σ) :
    ∃ samples s', samples.length = count ∧ GrownSamples source growth index s samples s' := by
  induction count generalizing index s with
  | zero => exact ⟨[], s, rfl, .nil⟩
  | succ count ih =>
      obtain ⟨expr, next, hexpr⟩ := Expr.exists_grown source growth growth.maxDepth.toNat s
      obtain ⟨samples, s', hlength, hsamples⟩ := ih (index + 1) next
      exact ⟨⟨index, expr⟩ :: samples, s', congrArg Nat.succ hlength, .cons hexpr hsamples⟩

namespace GrownSamples

variable {index : Nat} {s s' : σ} {samples : List Sample}

/-- The numbers have no gaps. -/
theorem map_index (h : GrownSamples source growth index s samples s') :
    samples.map Sample.index = List.range' index samples.length := by
  induction h with
  | nil => rfl
  | cons grown later ih => rw [List.map_cons, ih, List.length_cons, List.range'_succ]

/-- The function finds the run; the samples it starts with, last first, come before the new ones. -/
theorem growFrom?_eq (hbound : 0 < growth.literalBound)
    (h : GrownSamples source growth index s samples s') (done : List Sample) :
    growFrom? source growth samples.length index done s = some (done.reverse ++ samples, s') := by
  induction h generalizing done with
  | nil =>
      rw [List.append_nil]
      rfl
  | cons grown later ih =>
      rw [List.length_cons, growFrom?_succ (grown.grow?_eq hbound), ih, List.reverse_cons,
        List.append_assoc, List.singleton_append]

/-- A run from the first state of a seed is what the seed gives. -/
theorem grownSamples?_eq {count : UInt32} {seed : Int64} {last : ChaCha.KeyStream}
    (hbound : 0 < growth.literalBound)
    (h : GrownSamples chachaSource growth 1 (seeded seed.toUInt64) samples last)
    (hlength : samples.length = count.toNat) : grownSamples? count seed growth = some samples := by
  have hgrown := h.growFrom?_eq hbound []
  rw [hlength] at hgrown
  rw [grownSamples?, hgrown]
  rfl

end GrownSamples

theorem length_eq_of_map_index {samples : List Sample} {count : Nat}
    (h : samples.map Sample.index = List.range' 1 count) : samples.length = count := by
  rw [← List.length_map (f := Sample.index), h, List.length_range']

/-- The sample at a position has the next number. -/
theorem index_of_map_index {samples : List Sample} {count i : Nat} {sample : Sample}
    (h : samples.map Sample.index = List.range' 1 count) (hi : samples[i]? = some sample) :
    sample.index = i + 1 ∧ i < count := by
  have hnumber : (List.range' 1 count)[i]? = some sample.index := by
    rw [← h, List.getElem?_map, hi]
    rfl
  obtain ⟨hlt, hget⟩ := List.getElem?_eq_some_iff.1 hnumber
  rw [List.length_range'] at hlt
  rw [List.getElem_range'] at hget
  omega

/-! ## Requests that pass their check -/

theorem Growth.literalBound_pos_of_check (h : growth.check = .ok ()) : 0 < growth.literalBound := by
  by_contra hbound
  have hzero : growth.literalBound = 0 := UInt32.le_zero_iff.1 (UInt32.not_lt.1 hbound)
  unfold Growth.check at h
  rw [if_pos hzero] at h
  -- The last check fails now, so there is an error whichever of the others pass.
  split at h
  · contradiction
  · split at h
    · contradiction
    · split at h <;> contradiction

namespace SampleRequest

variable {request : SampleRequest}

theorem check_eq_ok_iff :
    request.check = .ok () ↔
      (request.count ≠ 0 ∧ request.count ≤ maxCount) ∧ request.growth.check = .ok () := by
  unfold check
  by_cases hcount : request.count = 0 ∨ maxCount < request.count
  · rw [if_pos hcount]
    refine ⟨nofun, ?_⟩
    rintro ⟨⟨hzero, hmost⟩, -⟩
    rcases hcount with hcount | hcount
    · exact absurd hcount hzero
    · exact absurd hmost (UInt32.not_le.2 hcount)
  · rw [if_neg hcount]
    obtain ⟨hzero, hmost⟩ := not_or.1 hcount
    cases hgrowth : request.growth.check with
    | error cause => simp [Except.mapError]
    | ok => simp [Except.mapError, hzero, UInt32.not_lt.1 hmost]

/-- What a request that passes its check may count up to. -/
theorem count_lt_of_check (h : request.check = .ok ()) : request.count.toNat < 10 ^ 4 := by
  have hmost : request.count.toNat ≤ maxCount.toNat := UInt32.le_iff_toNat_le.1 (check_eq_ok_iff.1 h).1.2
  have hmax : maxCount.toNat = 9999 := rfl
  omega

theorem exists_samples (h : request.check = .ok ()) :
    ∃ samples, request.samples? = some samples ∧
      samples.map Sample.index = List.range' 1 request.count.toNat := by
  have hbound := Growth.literalBound_pos_of_check (check_eq_ok_iff.1 h).2
  obtain ⟨samples, s', hlength, hsamples⟩ := exists_grownSamples chachaSource request.growth
    request.count.toNat 1 (seeded request.seed.toUInt64)
  refine ⟨samples, hsamples.grownSamples?_eq hbound hlength, ?_⟩
  rw [hsamples.map_index, hlength]

end SampleRequest
end SampleForge
