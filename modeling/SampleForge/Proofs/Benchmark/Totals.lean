import Mathlib.Tactic
import SampleForge.Benchmark.Timing

/-!
# The total of the passes

Spans are added one after another, and every addition carries the nanoseconds and checks the seconds.
`ComesTo value n outcome` says that an outcome is what `n` nanoseconds come to: a value that stands for
them, or none if they are too many for a duration.  An addition comes to the exact sum of its two parts.
What is added so far is never longer than all spans together, so a check on the way fails only if the
exact sum of all of them is too long: `comesTo_sum?`.

It does not matter when the nanoseconds are carried.  `LateSum` adds up seconds and nanoseconds apart, each
within 64 bits, and carries when the nanoseconds reach their limit and at the end; the sums are the same,
`sumLate?_eq_sum?`.

`Timing.total_is_exact` says this of the passes of a benchmark, with what follows for their order, for two
lists of passes and for a single pass.  Nothing is said of the rounding of the average.
-/

namespace SampleForge

theorem nanosPerSecond_pos : 0 < nanosPerSecond := by decide

namespace Duration

/-- The length of all spans together, in nanoseconds. -/
def totalNanos (spans : List Duration) : Nat := (spans.map toNanos).sum

@[simp] theorem totalNanos_nil : totalNanos [] = 0 := rfl

@[simp] theorem totalNanos_cons (d : Duration) (spans : List Duration) :
    totalNanos (d :: spans) = d.toNanos + totalNanos spans := rfl

@[simp] theorem totalNanos_append (spans spans' : List Duration) :
    totalNanos (spans ++ spans') = totalNanos spans + totalNanos spans' := by
  simp [totalNanos]

theorem totalNanos_eq_of_perm {spans spans' : List Duration} (h : spans.Perm spans') :
    totalNanos spans = totalNanos spans' :=
  (h.map toNanos).sum_eq

/-- More nanoseconds than a duration has room for. -/
def TooLong (n : Nat) : Prop := UInt64.size ≤ n / nanosPerSecond

theorem TooLong.mono {m n : Nat} (h : TooLong m) (hle : m ≤ n) : TooLong n :=
  h.trans (Nat.div_le_div_right hle)

/-! ## A duration and its nanoseconds -/

theorem toNanos_div (d : Duration) : d.toNanos / nanosPerSecond = d.seconds.toNat := by
  have hnanos := d.nanos_lt
  unfold toNanos nanosPerSecond at *
  omega

theorem toNanos_mod (d : Duration) : d.toNanos % nanosPerSecond = d.nanos := by
  have hnanos := d.nanos_lt
  unfold toNanos nanosPerSecond at *
  omega

theorem not_tooLong_toNanos (d : Duration) : ¬ TooLong d.toNanos := by
  rw [TooLong, toNanos_div, Nat.not_le]
  exact d.seconds.toNat_lt_size

theorem toNanos_injective : Function.Injective toNanos := by
  intro a b h
  have hseconds : a.seconds = b.seconds := by
    rw [← UInt64.toNat_inj, ← toNanos_div, ← toNanos_div, h]
  have hnanos : a.nanos = b.nanos := by rw [← toNanos_mod, ← toNanos_mod, h]
  cases a
  cases b
  congr

/-! ## What nanoseconds come to -/

/-- The outcome is a value that stands for `n` nanoseconds, or none because they are too many. -/
inductive ComesTo {τ : Type} (value : τ → Nat) (n : Nat) : Option τ → Prop
  | fits {t : τ} (h : value t = n) : ComesTo value n (some t)
  | tooLong (h : TooLong n) : ComesTo value n none

section ComesTo

variable {τ υ : Type} {value : τ → Nat} {value' : υ → Nat} {m n : Nat}

/-- What is too long already does not get shorter by what is added to it. -/
theorem ComesTo.bind {outcome : Option τ} {next : τ → Option υ} (h : ComesTo value m outcome)
    (hle : m ≤ n) (h' : ∀ t, value t = m → ComesTo value' n (next t)) :
    ComesTo value' n (outcome.bind next) := by
  cases h with
  | fits hvalue => exact h' _ hvalue
  | tooLong hlong => exact .tooLong (hlong.mono hle)

/-- If every addition comes to the exact sum of its parts, all of them come to the exact sum. -/
theorem comesTo_foldlM {step : τ → Duration → Option τ}
    (hstep : ∀ t d, ComesTo value (value t + d.toNanos) (step t d)) (spans : List Duration) (t : τ) :
    ComesTo value (value t + totalNanos spans) (spans.foldlM step t) := by
  induction spans generalizing t with
  | nil => exact .fits rfl
  | cons d spans ih =>
      rw [List.foldlM_cons, totalNanos_cons, ← Nat.add_assoc]
      refine (hstep t d).bind (Nat.le_add_right _ _) fun t' ht' => ?_
      rw [← ht']
      exact ih t'

/-- There is one outcome among the durations. -/
theorem ComesTo.unique {outcome outcome' : Option Duration} (h : ComesTo toNanos n outcome)
    (h' : ComesTo toNanos n outcome') : outcome = outcome' := by
  cases h with
  | fits hvalue =>
      cases h' with
      | fits hvalue' => rw [toNanos_injective (hvalue.trans hvalue'.symm)]
      | tooLong hlong => exact absurd (hvalue ▸ hlong) (not_tooLong_toNanos _)
  | tooLong hlong =>
      cases h' with
      | fits hvalue' => exact absurd (hvalue' ▸ hlong) (not_tooLong_toNanos _)
      | tooLong hlong' => rfl

theorem ComesTo.eq_none_iff {outcome : Option Duration} (h : ComesTo toNanos n outcome) :
    outcome = none ↔ TooLong n := by
  cases h with
  | fits hvalue =>
      rw [← hvalue]
      exact ⟨nofun, fun hlong => absurd hlong (not_tooLong_toNanos _)⟩
  | tooLong hlong => exact ⟨fun _ => hlong, fun _ => rfl⟩

theorem ComesTo.exists_of_not_tooLong {outcome : Option Duration} (h : ComesTo toNanos n outcome)
    (hshort : ¬ TooLong n) : ∃ d, outcome = some d ∧ d.toNanos = n := by
  cases h with
  | fits hvalue => exact ⟨_, rfl, hvalue⟩
  | tooLong hlong => exact absurd hlong hshort

end ComesTo

/-! ## Sums that carry at every step -/

/-- Seconds and nanoseconds as one span: the nanoseconds carry, and then the seconds are checked. -/
def carried? (seconds nanos : Nat) : Option Duration :=
  if seconds + nanos / nanosPerSecond < UInt64.size then
    some ⟨UInt64.ofNat (seconds + nanos / nanosPerSecond), nanos % nanosPerSecond,
      Nat.mod_lt nanos nanosPerSecond_pos⟩
  else none

/-- The nanoseconds that are carried and those that are left are quotient and remainder. -/
theorem comesTo_carried? (seconds nanos : Nat) :
    ComesTo toNanos (seconds * nanosPerSecond + nanos) (carried? seconds nanos) := by
  have hdiv : (seconds * nanosPerSecond + nanos) / nanosPerSecond =
      seconds + nanos / nanosPerSecond := by
    rw [Nat.add_comm, Nat.add_mul_div_right _ _ nanosPerSecond_pos, Nat.add_comm]
  unfold carried?
  by_cases hfits : seconds + nanos / nanosPerSecond < UInt64.size
  · rw [if_pos hfits]
    refine .fits ?_
    have hsplit := Nat.div_add_mod' nanos nanosPerSecond
    simp only [toNanos, UInt64.toNat_ofNat_of_lt' hfits, Nat.add_mul]
    omega
  · rw [if_neg hfits]
    refine .tooLong ?_
    rw [TooLong, hdiv]
    exact Nat.not_lt.1 hfits

theorem add?_eq_carried? (a b : Duration) :
    a.add? b = carried? (a.seconds.toNat + b.seconds.toNat) (a.nanos + b.nanos) := rfl

theorem comesTo_add? (a b : Duration) : ComesTo toNanos (a.toNanos + b.toNanos) (a.add? b) := by
  have hsum : a.toNanos + b.toNanos =
      (a.seconds.toNat + b.seconds.toNat) * nanosPerSecond + (a.nanos + b.nanos) := by
    rw [toNanos, toNanos, Nat.add_mul]
    omega
  rw [hsum, add?_eq_carried?]
  exact comesTo_carried? _ _

theorem comesTo_sum? (spans : List Duration) : ComesTo toNanos (totalNanos spans) (sum? spans) := by
  have hsum := comesTo_foldlM comesTo_add? spans zero
  have hzero : zero.toNanos = 0 := rfl
  rwa [hzero, Nat.zero_add] at hsum

theorem sum?_eq_of_perm {spans spans' : List Duration} (h : spans.Perm spans') :
    sum? spans = sum? spans' := by
  have hsum := comesTo_sum? spans
  rw [totalNanos_eq_of_perm h] at hsum
  exact hsum.unique (comesTo_sum? spans')

/-- A list that is cut in two has the sum of the sums. -/
theorem sum?_append (spans spans' : List Duration) :
    sum? (spans ++ spans') =
      (sum? spans).bind fun total => (sum? spans').bind fun total' => total.add? total' := by
  refine (comesTo_sum? _).unique ?_
  rw [totalNanos_append]
  refine (comesTo_sum? spans).bind (Nat.le_add_right _ _) fun total htotal => ?_
  refine (comesTo_sum? spans').bind (Nat.le_add_left _ _) fun total' htotal' => ?_
  rw [← htotal, ← htotal']
  exact comesTo_add? total total'

theorem sum?_singleton (d : Duration) : sum? [d] = some d :=
  (comesTo_sum? [d]).unique (.fits (by simp))

end Duration

/-! ## Sums that carry late -/

/-- Seconds and nanoseconds that are added up apart. -/
structure LateSum where
  seconds : Nat
  nanos : Nat

namespace LateSum

open Duration

def toNanos (sum : LateSum) : Nat := sum.seconds * nanosPerSecond + sum.nanos

/-- Adds a span.  The seconds are checked; the nanoseconds carry when 64 bits do not hold them. -/
def add? (sum : LateSum) (d : Duration) : Option LateSum :=
  let seconds := sum.seconds + d.seconds.toNat
  let nanos := sum.nanos + d.nanos
  if UInt64.size ≤ seconds then none
  else if nanos < UInt64.size then some ⟨seconds, nanos⟩
  else
    let carried := seconds + sum.nanos / nanosPerSecond
    if carried < UInt64.size then some ⟨carried, sum.nanos % nanosPerSecond + d.nanos⟩ else none

theorem comesTo_add? (sum : LateSum) (d : Duration) :
    ComesTo toNanos (sum.toNanos + d.toNanos) (sum.add? d) := by
  have hsplit := Nat.div_add_mod' sum.nanos nanosPerSecond
  have htotal : sum.toNanos + d.toNanos =
      (sum.seconds + d.seconds.toNat) * nanosPerSecond + (sum.nanos + d.nanos) := by
    rw [toNanos, Duration.toNanos, Nat.add_mul]
    omega
  have hlong : ∀ seconds, UInt64.size ≤ seconds →
      seconds * nanosPerSecond ≤ sum.toNanos + d.toNanos → TooLong (sum.toNanos + d.toNanos) :=
    fun seconds hseconds hle =>
      hseconds.trans ((Nat.le_div_iff_mul_le nanosPerSecond_pos).2 hle)
  -- The seconds of the spans are too many already, or too many with what is carried into them.
  simp only [add?]
  split
  case isTrue hseconds =>
    refine .tooLong (hlong _ hseconds ?_)
    omega
  case isFalse hseconds =>
    split
    case isTrue hnanos => exact .fits htotal.symm
    case isFalse hnanos =>
      split
      case isTrue hcarried =>
        refine .fits ?_
        rw [htotal]
        simp only [toNanos, Nat.add_mul]
        omega
      case isFalse hcarried =>
        refine .tooLong (hlong _ (Nat.not_lt.1 hcarried) ?_)
        rw [htotal, Nat.add_mul]
        omega

end LateSum

/-- The sum of a list of spans, carried at the end. -/
def Duration.sumLate? (spans : List Duration) : Option Duration :=
  (spans.foldlM LateSum.add? ⟨0, 0⟩).bind fun sum => carried? sum.seconds sum.nanos

theorem Duration.sumLate?_eq_sum? (spans : List Duration) : sumLate? spans = sum? spans := by
  have hlate := comesTo_foldlM LateSum.comesTo_add? spans ⟨0, 0⟩
  have hzero : LateSum.toNanos ⟨0, 0⟩ = 0 := rfl
  rw [hzero, Nat.zero_add] at hlate
  refine ComesTo.unique (hlate.bind (Nat.le_refl _) fun sum hsum => ?_) (comesTo_sum? spans)
  rw [← hsum]
  exact comesTo_carried? _ _

/-! ## The passes of a benchmark -/

namespace Timing

open Duration

/-- Without passes there is a total as well as an average. -/
theorem meanSeconds?_eq_none_iff (t : Timing) : t.meanSeconds? = none ↔ t.total? = none := by
  obtain ⟨samples, passes⟩ := t
  cases passes with
  | nil => exact ⟨nofun, nofun⟩
  | cons pass passes => exact Option.map_eq_none_iff

theorem text?_eq_none_iff (t : Timing) : t.text? = none ↔ t.total? = none := by
  rw [text?, Option.map_eq_none_iff, meanSeconds?_eq_none_iff]

theorem meanSeconds?_eq_of_perm {passes passes' : List Duration} (samples : Nat)
    (h : passes.Perm passes') :
    meanSeconds? ⟨samples, passes⟩ = meanSeconds? ⟨samples, passes'⟩ := by
  simp only [meanSeconds?, total?, runs, sum?_eq_of_perm h, h.length_eq, h.isEmpty_eq]

theorem text?_eq_of_perm {passes passes' : List Duration} (samples : Nat)
    (h : passes.Perm passes') : text? ⟨samples, passes⟩ = text? ⟨samples, passes'⟩ := by
  simp only [text?, lineAround, runs, meanSeconds?_eq_of_perm samples h, h.length_eq]

end Timing

/-- The total of passes is there unless their exact sum in nanoseconds has more seconds than a duration has
room for, and then it is that sum, whether the nanoseconds are carried early or late; the report is there
whenever the total is.  So passes in another order have the same total, average and report, the total of
two lists of passes is the sum of their totals, and the total of one pass is that pass. -/
theorem Timing.total_is_exact (samples : Nat) (passes : List Duration) :
    (total? ⟨samples, passes⟩ = none ↔ 2 ^ 64 - 1 < Duration.totalNanos passes / 10 ^ 9) ∧
    (Duration.totalNanos passes / 10 ^ 9 ≤ 2 ^ 64 - 1 → ∃ total,
      total? ⟨samples, passes⟩ = some total ∧
      total.seconds.toNat = Duration.totalNanos passes / 10 ^ 9 ∧
      total.nanos = Duration.totalNanos passes % 10 ^ 9) ∧
    Duration.sumLate? passes = total? ⟨samples, passes⟩ ∧
    (text? ⟨samples, passes⟩ = none ↔ total? ⟨samples, passes⟩ = none) ∧
    (∀ passes' : List Duration, passes.Perm passes' →
      total? ⟨samples, passes'⟩ = total? ⟨samples, passes⟩ ∧
      meanSeconds? ⟨samples, passes'⟩ = meanSeconds? ⟨samples, passes⟩ ∧
      text? ⟨samples, passes'⟩ = text? ⟨samples, passes⟩) ∧
    (∀ later : List Duration, total? ⟨samples, passes ++ later⟩ =
      (total? ⟨samples, passes⟩).bind fun total =>
        (total? ⟨samples, later⟩).bind fun total' => total.add? total') ∧
    ∀ pass : Duration, total? ⟨samples, [pass]⟩ = some pass := by
  have hsum := Duration.comesTo_sum? passes
  have hlong : Duration.TooLong (Duration.totalNanos passes) ↔
      2 ^ 64 - 1 < Duration.totalNanos passes / 10 ^ 9 := by
    show 2 ^ 64 ≤ Duration.totalNanos passes / 10 ^ 9 ↔ _
    omega
  refine ⟨hsum.eq_none_iff.trans hlong, fun hshort => ?_, Duration.sumLate?_eq_sum? passes,
    text?_eq_none_iff _, fun passes' hperm => ?_, Duration.sum?_append passes,
    Duration.sum?_singleton⟩
  · obtain ⟨total, htotal, hnanos⟩ :=
      hsum.exists_of_not_tooLong fun h => Nat.not_lt.2 hshort (hlong.1 h)
    refine ⟨total, htotal, ?_, ?_⟩
    · rw [← hnanos]
      exact total.toNanos_div.symm
    · rw [← hnanos]
      exact total.toNanos_mod.symm
  · exact ⟨Duration.sum?_eq_of_perm hperm.symm, meanSeconds?_eq_of_perm samples hperm.symm,
      text?_eq_of_perm samples hperm.symm⟩

/-- The longest duration but for one second. -/
def Duration.nearlyLongest : Duration := ⟨18446744073709551614, 999999999, by decide⟩

def Duration.oneSecond : Duration := ⟨1, 0, nanosPerSecond_pos⟩

def Duration.oneNano : Duration := ⟨0, 1, by decide⟩

/-- Two passes come to the longest duration in either order, and a nanosecond more is too long. -/
theorem Timing.total_is_exact_longest :
    Duration.totalNanos [.nearlyLongest, .oneSecond] / 10 ^ 9 ≤ 2 ^ 64 - 1 ∧
      [Duration.nearlyLongest, .oneSecond].Perm [.oneSecond, .nearlyLongest] ∧
      (∃ total, total? ⟨4, [.oneSecond, .nearlyLongest]⟩ = some total ∧
        total.seconds.toNat = 2 ^ 64 - 1 ∧ total.nanos = 999999999) ∧
      total? ⟨4, [.nearlyLongest, .oneSecond, .oneNano]⟩ = none := by
  have hshort : Duration.totalNanos [.nearlyLongest, .oneSecond] / 10 ^ 9 ≤ 2 ^ 64 - 1 := by decide
  have hperm : [Duration.nearlyLongest, .oneSecond].Perm [.oneSecond, .nearlyLongest] := .swap _ _ _
  have hlong : 2 ^ 64 - 1 <
      Duration.totalNanos [.nearlyLongest, .oneSecond, .oneNano] / 10 ^ 9 := by decide
  obtain ⟨-, hexact, -, -, hsame, -⟩ := total_is_exact 4 [.nearlyLongest, .oneSecond]
  obtain ⟨total, htotal, hseconds, hnanos⟩ := hexact hshort
  refine ⟨hshort, hperm, ⟨total, (hsame _ hperm).1.trans htotal, hseconds.trans ?_,
    hnanos.trans ?_⟩, (total_is_exact 4 _).1.2 hlong⟩
  · decide
  · decide

end SampleForge
