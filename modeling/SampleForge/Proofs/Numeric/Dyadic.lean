import Mathlib.Tactic
import SampleForge.Numeric.Binary64

/-!
# Comparing a double with a dyadic fraction

`Binary64.exceedsDyadic` compares natural numbers only.  For a finite double it decides the order of the
exact values: `exceedsDyadic_eq_true_iff`.

A double has 53 significant bits, so between the largest fraction below one with denominator `2 ^ 53`
and one itself there is no further double: `le_of_toRat?_lt_one`.

`AtMost` is the order of doubles, by their values among the rationals and the two infinities.  A larger
double exceeds what a smaller one does, `exceedsDyadic_of_atMost`.  At the ends of the unit interval
nothing depends on the fraction: what is at most zero exceeds none, and what is at least one exceeds all
that are below one.
-/

namespace SampleForge.Numeric.Binary64

/-- A finite double exceeds `n / 2 ^ k` exactly if its value does. -/
theorem exceedsDyadic_eq_true_iff {x : Binary64} {a : Rat} (h : x.toRat? = some a) (n k : Nat) :
    x.exceedsDyadic n k = true ↔ (n : Rat) / 2 ^ k < a := by
  unfold toRat? at h
  unfold exceedsDyadic
  have hk : (0 : Rat) < 2 ^ k := by positivity
  cases hv : x.value with
  | nan => simp [hv] at h
  | infinite negative => simp [hv] at h
  | finite negative significand exponent =>
    simp only [hv, Option.some.injEq] at h
    subst h
    cases negative with
    | true =>
      have hm : (0 : Rat) ≤ significand * 2 ^ exponent := by positivity
      have hn : (0 : Rat) ≤ n / 2 ^ k := by positivity
      simp
      linarith
    | false =>
      have hscale : (significand : Rat) * 2 ^ exponent * 2 ^ k =
          significand * 2 ^ (exponent + k) := by
        rw [mul_assoc, zpow_add₀ (by norm_num), zpow_natCast]
      simp only [Bool.false_eq_true, if_false]
      rw [div_lt_iff₀ hk, hscale]
      by_cases hs : 0 ≤ exponent + k
      · obtain ⟨t, ht⟩ := Int.eq_ofNat_of_zero_le hs
        rw [if_pos hs, decide_eq_true_eq, ht, Int.toNat_natCast, Nat.shiftLeft_eq, zpow_natCast]
        exact_mod_cast Iff.rfl
      · obtain ⟨t, ht⟩ := Int.eq_ofNat_of_zero_le (show 0 ≤ -(exponent + k) by omega)
        have hneg : exponent + k = -(t : Int) := by omega
        rw [if_neg hs, decide_eq_true_eq, ht, hneg, Int.toNat_natCast, Nat.shiftLeft_eq, zpow_neg,
          zpow_natCast, ← div_eq_mul_inv, lt_div_iff₀ (by positivity)]
        exact_mod_cast Iff.rfl

/-- The value is a number strictly between zero and one. -/
def InOpenUnit (x : Binary64) : Prop :=
  ∃ a, x.toRat? = some a ∧ 0 < a ∧ a < 1

/-- A positive significand over a larger power of two is strictly between zero and one. -/
theorem inOpenUnit_of_value {x : Binary64} {significand t : Nat}
    (h : x.value = .finite false significand (-(t : Int))) (hpos : 0 < significand)
    (hlt : significand < 2 ^ t) : x.InOpenUnit := by
  have hvalue : x.toRat? = some ((significand : Rat) / 2 ^ t) := by
    simp [toRat?, h, div_eq_mul_inv]
  refine ⟨_, hvalue, by positivity, ?_⟩
  rw [div_lt_one (by positivity)]
  exact_mod_cast hlt

theorem significand_lt {x : Binary64} {negative : Bool} {significand : Nat} {exponent : Int}
    (h : x.value = .finite negative significand exponent) : significand < 2 ^ 53 := by
  have hfraction : x.bits.toNat % hiddenBit < hiddenBit := Nat.mod_lt _ (by decide)
  have hbit : hiddenBit + hiddenBit = 2 ^ 53 := by decide
  unfold value at h
  by_cases hspecial : x.bits.toNat / hiddenBit % 2048 = 2047
  · simp only [if_pos hspecial] at h
    split at h <;> contradiction
  · by_cases hsubnormal : x.bits.toNat / hiddenBit % 2048 = 0
    · simp only [if_neg hspecial, if_pos hsubnormal] at h
      obtain ⟨-, rfl, -⟩ := Value.finite.inj h
      omega
    · simp only [if_neg hspecial, if_neg hsubnormal] at h
      obtain ⟨-, rfl, -⟩ := Value.finite.inj h
      omega

/-- A significand over a power of two that is below one stays a step of `2 ^ -53` below it. -/
theorem div_two_pow_le {significand t : Nat} (hsignificand : significand < 2 ^ 53)
    (hlt : significand < 2 ^ t) : (significand : Rat) / 2 ^ t ≤ (2 ^ 53 - 1) / 2 ^ 53 := by
  rw [div_le_div_iff₀ (by positivity) (by positivity)]
  by_cases ht : t ≤ 53
  · -- The fraction is at most `1 - 2 ^ -t`, which grows with `t`.
    have hpow : (2 : Rat) ^ t ≤ 2 ^ 53 := pow_le_pow_right₀ (by norm_num) ht
    have hnat : significand + 1 ≤ 2 ^ t := hlt
    have hle : (significand : Rat) + 1 ≤ 2 ^ t := by exact_mod_cast hnat
    nlinarith
  · -- The significand is the limit, and the denominator only makes it smaller.
    have hpow : (2 : Rat) ^ 53 ≤ 2 ^ t := pow_le_pow_right₀ (by norm_num) (by omega)
    have hnat : significand + 1 ≤ 2 ^ 53 := hsignificand
    have hle : (significand : Rat) + 1 ≤ 2 ^ 53 := by exact_mod_cast hnat
    nlinarith

/-- No double lies strictly between `1 - 2 ^ -53` and one. -/
theorem le_of_toRat?_lt_one {x : Binary64} {a : Rat} (h : x.toRat? = some a) (hlt : a < 1) :
    a ≤ (2 ^ 53 - 1) / 2 ^ 53 := by
  unfold toRat? at h
  cases hv : x.value with
  | nan => simp [hv] at h
  | infinite negative => simp [hv] at h
  | finite negative significand exponent =>
      simp only [hv, Option.some.injEq] at h
      subst h
      have hmagnitude : (0 : Rat) ≤ significand * 2 ^ exponent := by positivity
      have hone : (0 : Rat) ≤ (2 ^ 53 - 1) / 2 ^ 53 := by norm_num
      cases negative with
      | true =>
          simp only [if_true]
          linarith
      | false =>
          simp only [Bool.false_eq_true, if_false] at hlt ⊢
          by_cases hexponent : 0 ≤ exponent
          · -- A natural number below one is zero.
            obtain ⟨t, rfl⟩ := Int.eq_ofNat_of_zero_le hexponent
            have hnat : significand * 2 ^ t < 1 := by exact_mod_cast hlt
            have hzero : significand * 2 ^ t = 0 := by omega
            have hvalue : (significand : Rat) * 2 ^ (t : Int) = 0 := by exact_mod_cast hzero
            rw [hvalue]
            exact hone
          · obtain ⟨t, ht⟩ := Int.eq_ofNat_of_zero_le (show 0 ≤ -exponent by omega)
            obtain rfl : exponent = -(t : Int) := by omega
            rw [zpow_neg, zpow_natCast, ← div_eq_mul_inv] at hlt ⊢
            rw [div_lt_one (by positivity)] at hlt
            exact div_two_pow_le (significand_lt hv) (by exact_mod_cast hlt)

/-! ## Order -/

/-- The value of a double among the rationals and the two infinities, unless it is no number. -/
def extended? (x : Binary64) : Option (WithBot (WithTop Rat)) :=
  match x.value with
  | .nan => none
  | .infinite negative => some (if negative then ⊥ else ⊤)
  | .finite .. => x.toRat?.map fun a => ((a : WithTop Rat) : WithBot (WithTop Rat))

/-- The comparison `x ≤ y`.  What is no number compares with nothing, and both zeros are equal. -/
def AtMost (x y : Binary64) : Prop :=
  ∃ a b, x.extended? = some a ∧ y.extended? = some b ∧ a ≤ b

theorem extended?_of_toRat? {x : Binary64} {a : Rat} (h : x.toRat? = some a) :
    x.extended? = some ((a : WithTop Rat) : WithBot (WithTop Rat)) := by
  cases hv : x.value with
  | nan => simp [toRat?, hv] at h
  | infinite negative => simp [toRat?, hv] at h
  | finite negative significand exponent => simp [extended?, hv, h]

/-- Finite doubles are in the order of their values. -/
theorem atMost_of_toRat? {x y : Binary64} {a b : Rat} (hx : x.toRat? = some a)
    (hy : y.toRat? = some b) (hle : a ≤ b) : x.AtMost y := by
  refine ⟨_, _, extended?_of_toRat? hx, extended?_of_toRat? hy, ?_⟩
  exact WithBot.coe_le_coe.2 (WithTop.coe_le_coe.2 hle)

/-- A double exceeds a dyadic fraction exactly if its value does, be it finite or not. -/
theorem exceedsDyadic_iff {x : Binary64} {n k : Nat} :
    x.exceedsDyadic n k = true ↔ ∃ a, x.extended? = some a ∧
      ((((n : Rat) / 2 ^ k : Rat) : WithTop Rat) : WithBot (WithTop Rat)) < a := by
  cases hv : x.value with
  | nan => simp [exceedsDyadic, extended?, hv]
  | infinite negative =>
      cases negative with
      | true => simp [exceedsDyadic, extended?, hv]
      | false =>
          have htop : ((((n : Rat) / 2 ^ k : Rat) : WithTop Rat) : WithBot (WithTop Rat)) < ⊤ :=
            WithBot.coe_lt_coe.2 (WithTop.coe_lt_top _)
          simpa [exceedsDyadic, extended?, hv] using htop
  | finite negative significand exponent =>
      obtain ⟨a, ha⟩ : ∃ a, x.toRat? = some a := by simp [toRat?, hv]
      rw [exceedsDyadic_eq_true_iff ha, extended?_of_toRat? ha]
      simp

theorem exceedsDyadic_of_atMost {x y : Binary64} {n k : Nat} (hle : x.AtMost y)
    (h : x.exceedsDyadic n k = true) : y.exceedsDyadic n k = true := by
  obtain ⟨a, b, ha, hb, hab⟩ := hle
  obtain ⟨a', ha', hlt⟩ := exceedsDyadic_iff.1 h
  obtain rfl := Option.some.inj (ha.symm.trans ha')
  exact exceedsDyadic_iff.2 ⟨b, hb, hlt.trans_le hab⟩

/-- The double is a number of zero or less; minus infinity is one. -/
def AtMostZero (x : Binary64) : Prop :=
  ∃ a, x.extended? = some a ∧ a ≤ 0

/-- The double is a number of one or more; infinity is one. -/
def AtLeastOne (x : Binary64) : Prop :=
  ∃ a, x.extended? = some a ∧ 1 ≤ a

theorem exceedsDyadic_of_atMostZero {x : Binary64} (h : x.AtMostZero) (n k : Nat) :
    x.exceedsDyadic n k = false := by
  obtain ⟨a, ha, hzero⟩ := h
  refine Bool.eq_false_of_not_eq_true fun hexceeds => ?_
  obtain ⟨a', ha', hlt⟩ := exceedsDyadic_iff.1 hexceeds
  obtain rfl := Option.some.inj (ha.symm.trans ha')
  have hfraction : (0 : Rat) ≤ (n : Rat) / 2 ^ k := by positivity
  have hnonneg : (0 : WithBot (WithTop Rat)) ≤ (((n : Rat) / 2 ^ k : Rat) : WithTop Rat) :=
    WithBot.coe_le_coe.2 (WithTop.coe_le_coe.2 hfraction)
  exact absurd (hlt.trans_le hzero) (not_lt.2 hnonneg)

/-- A fraction of the unit interval lies below everything from one on. -/
theorem exceedsDyadic_of_atLeastOne {x : Binary64} (h : x.AtLeastOne) {n k : Nat} (hlt : n < 2 ^ k) :
    x.exceedsDyadic n k = true := by
  obtain ⟨a, ha, hone⟩ := h
  have hfraction : (n : Rat) / 2 ^ k < 1 := by
    rw [div_lt_one (by positivity)]
    exact_mod_cast hlt
  have hbelow : ((((n : Rat) / 2 ^ k : Rat) : WithTop Rat) : WithBot (WithTop Rat)) < 1 :=
    WithBot.coe_lt_coe.2 (WithTop.coe_lt_coe.2 hfraction)
  exact exceedsDyadic_iff.2 ⟨a, ha, hbelow.trans_le hone⟩

theorem exceedsDyadic_of_nan {x : Binary64} (h : x.value = .nan) (n k : Nat) :
    x.exceedsDyadic n k = false := by
  simp [exceedsDyadic, h]

end SampleForge.Numeric.Binary64
