import Mathlib.Tactic
import SampleForge.Text.Numeral

/-!
# The grammar of numerals

`UnsignedNumeral` and `SignedNumeral` say which texts are numerals and which number each denotes,
without mention of how they are read.  Leading zeros and a plus sign give a number further numerals
beside the one it is written with.  The readers of 64 bits accept exactly the numerals whose number
fits, `readUInt64?_eq_some_iff` and `readInt64?_eq_some_iff`.
-/

namespace SampleForge.Text

/-- A nonempty row of decimal digits, and the number it denotes. -/
structure DecimalNumeral (cs : List Char) (n : Nat) : Prop where
  nonempty : cs ≠ []
  digits : ∀ c ∈ cs, c.isDigit = true
  value : Nat.ofDigitChars 10 cs 0 = n

/-- A decimal numeral that may follow a plus sign. -/
inductive UnsignedNumeral : List Char → Nat → Prop
  | plain {cs : List Char} {n : Nat} (h : DecimalNumeral cs n) : UnsignedNumeral cs n
  | plus {cs : List Char} {n : Nat} (h : DecimalNumeral cs n) : UnsignedNumeral ('+' :: cs) n

/-- A decimal numeral that may follow a sign. -/
inductive SignedNumeral : List Char → Int → Prop
  | plain {cs : List Char} {n : Nat} (h : DecimalNumeral cs n) : SignedNumeral cs n
  | plus {cs : List Char} {n : Nat} (h : DecimalNumeral cs n) : SignedNumeral ('+' :: cs) n
  | minus {cs : List Char} {n : Nat} (h : DecimalNumeral cs n) : SignedNumeral ('-' :: cs) (-n)

theorem UnsignedNumeral.signed {cs : List Char} {n : Nat} (h : UnsignedNumeral cs n) :
    SignedNumeral cs n := by
  cases h with
  | plain h => exact .plain h
  | plus h => exact .plus h

theorem readNat?_eq_some_iff {cs : List Char} {n : Nat} :
    readNat? cs = some n ↔ DecimalNumeral cs n := by
  unfold readNat?
  constructor
  · intro h
    by_cases hbad : (cs.isEmpty || !cs.all Char.isDigit) = true
    · rw [if_pos hbad] at h
      contradiction
    · rw [if_neg hbad] at h
      simp only [Bool.or_eq_true, List.isEmpty_iff, Bool.not_eq_true', not_or,
        Bool.not_eq_false, List.all_eq_true] at hbad
      exact ⟨hbad.1, hbad.2, Option.some.inj h⟩
  · rintro ⟨hne, hdigits, rfl⟩
    have hall : cs.all Char.isDigit = true := List.all_eq_true.2 hdigits
    simp [hne, hall]

/-- A sign is no digit, so a decimal numeral does not begin with one. -/
theorem DecimalNumeral.head_ne {c sign : Char} {cs : List Char} {n : Nat}
    (h : DecimalNumeral (c :: cs) n) (hsign : sign.isDigit = false) : c ≠ sign := by
  rintro rfl
  have hc := h.digits c List.mem_cons_self
  rw [hsign] at hc
  contradiction

theorem readUnsigned?_eq_some_iff {cs : List Char} {n : Nat} :
    readUnsigned? cs = some n ↔ UnsignedNumeral cs n := by
  constructor
  · intro h
    unfold readUnsigned? at h
    split at h
    · exact .plus (readNat?_eq_some_iff.1 h)
    · exact .plain (readNat?_eq_some_iff.1 h)
  · intro h
    cases h with
    | plus h => exact readNat?_eq_some_iff.2 h
    | plain h =>
        unfold readUnsigned?
        split
        · exact absurd rfl (h.head_ne (by decide))
        · exact readNat?_eq_some_iff.2 h

theorem readSigned?_eq_some_iff {cs : List Char} {i : Int} :
    readSigned? cs = some i ↔ SignedNumeral cs i := by
  constructor
  · intro h
    unfold readSigned? at h
    split at h <;>
      obtain ⟨n, hn, rfl⟩ := by simpa [Option.bind_eq_some_iff] using h
    · exact .plus (readNat?_eq_some_iff.1 hn)
    · exact .minus (readNat?_eq_some_iff.1 hn)
    · exact .plain (readNat?_eq_some_iff.1 hn)
  · intro h
    cases h with
    | plus h => simp [readSigned?, readNat?_eq_some_iff.2 h]
    | minus h => simp [readSigned?, readNat?_eq_some_iff.2 h]
    | plain h =>
        unfold readSigned?
        split
        · exact absurd rfl (h.head_ne (by decide))
        · exact absurd rfl (h.head_ne (by decide))
        · rw [readNat?_eq_some_iff.2 h]
          rfl

/-- The reader of 64 bits accepts the numerals of its numbers. -/
theorem readUInt64?_eq_some_iff {cs : List Char} {n : UInt64} :
    readUInt64? cs = some n ↔ UnsignedNumeral cs n.toNat := by
  rw [← readUnsigned?_eq_some_iff, readUInt64?, Option.bind_eq_some_iff]
  constructor
  · rintro ⟨m, hm, h⟩
    by_cases hsize : m < UInt64.size
    · rw [if_pos hsize] at h
      rw [← Option.some.inj h, UInt64.toNat_ofNat_of_lt' hsize]
      exact hm
    · rw [if_neg hsize] at h
      contradiction
  · intro h
    refine ⟨n.toNat, h, ?_⟩
    rw [if_pos n.toNat_lt_size, UInt64.ofNat_toNat]

theorem isInt64_iff {i : Int} : isInt64 i = true ↔ -2 ^ 63 ≤ i ∧ i < 2 ^ 63 := by
  simp only [isInt64, Bool.and_eq_true, decide_eq_true_eq]
  omega

/-- The signed reader of 64 bits accepts the numerals of its numbers. -/
theorem readInt64?_eq_some_iff {cs : List Char} {i : Int64} :
    readInt64? cs = some i ↔ SignedNumeral cs i.toInt := by
  rw [← readSigned?_eq_some_iff, readInt64?, Option.bind_eq_some_iff]
  constructor
  · rintro ⟨j, hj, h⟩
    by_cases hrange : isInt64 j = true
    · rw [if_pos hrange] at h
      obtain ⟨hlow, hhigh⟩ := isInt64_iff.1 hrange
      rw [← Option.some.inj h, Int64.toInt_ofInt_of_le hlow hhigh]
      exact hj
    · rw [if_neg hrange] at h
      contradiction
  · intro h
    refine ⟨i.toInt, h, ?_⟩
    rw [if_pos (isInt64_iff.2 ⟨i.le_toInt, i.toInt_lt⟩), Int64.ofInt_toInt]

/-! ## Numerals as written -/

theorem digits_ne_nil (n : Nat) : digits n ≠ [] :=
  Nat.toDigits_ne_nil

theorem isDigit_of_mem_digits {n : Nat} {c : Char} (hc : c ∈ digits n) : c.isDigit = true :=
  Nat.isDigit_of_mem_toDigits (by decide) (by decide) hc

/-- A character that is no digit does not stand in a numeral. -/
theorem not_mem_digits {c : Char} (hc : c.isDigit = false) (n : Nat) : c ∉ digits n := by
  intro hmem
  rw [isDigit_of_mem_digits hmem] at hc
  contradiction

theorem exists_digits_cons (n : Nat) : ∃ c cs, digits n = c :: cs ∧ c.isDigit = true := by
  obtain ⟨c, cs, hcs⟩ := List.exists_cons_of_ne_nil (digits_ne_nil n)
  have hmem : c ∈ digits n := by
    rw [hcs]
    exact List.mem_cons_self
  exact ⟨c, cs, hcs, isDigit_of_mem_digits hmem⟩

/-- The code points of the digits. -/
theorem toNat_bounds_of_isDigit {c : Char} (hc : c.isDigit = true) :
    48 ≤ c.toNat ∧ c.toNat ≤ 57 :=
  Char.isDigit_iff_toNat.1 hc

theorem decimalNumeral_digits (n : Nat) : DecimalNumeral (digits n) n :=
  ⟨digits_ne_nil n, fun _ hc => isDigit_of_mem_digits hc, Nat.ofDigitChars_ten_toDigits⟩

/-- The numeral of a signed number denotes it. -/
theorem signedNumeral_integerDigits (i : Int) : SignedNumeral (integerDigits i) i := by
  unfold integerDigits
  have hnumeral := decimalNumeral_digits i.natAbs
  by_cases hneg : i < 0
  · have hi : i = -(i.natAbs : Int) := by omega
    rw [if_pos hneg]
    conv => rhs; rw [hi]
    exact .minus hnumeral
  · have hi : i = (i.natAbs : Int) := by omega
    rw [if_neg hneg]
    conv => rhs; rw [hi]
    exact .plain hnumeral

theorem integerDigits_ne_nil (i : Int) : integerDigits i ≠ [] := by
  unfold integerDigits
  split
  · exact List.cons_ne_nil _ _
  · exact digits_ne_nil i.natAbs

/-- Signs and digits are all there is in a written integer. -/
theorem mem_integerDigits {i : Int} {c : Char} (hc : c ∈ integerDigits i) :
    c = '-' ∨ c.isDigit = true := by
  unfold integerDigits at hc
  split at hc
  · rcases List.mem_cons.1 hc with hc | hc
    · exact Or.inl hc
    · exact Or.inr (isDigit_of_mem_digits hc)
  · exact Or.inr (isDigit_of_mem_digits hc)

/-! ## Numerals without superfluous zeros -/

/-- A decimal numeral that does not begin with a zero unless it is one. -/
structure CanonicalNumeral (cs : List Char) (n : Nat) : Prop extends DecimalNumeral cs n where
  leading : cs.head? = some '0' → cs = ['0']

theorem digitChar_toNat_sub {c : Char} (hc : c.isDigit = true) :
    (c.toNat - 48).digitChar = c := by
  obtain ⟨hlow, hhigh⟩ := toNat_bounds_of_isDigit hc
  obtain ⟨d, hd⟩ := Nat.exists_eq_add_of_le hlow
  have hd9 : d ≤ 9 := by omega
  rw [hd, Nat.add_sub_cancel_left, ← Char.ofNat_toNat c, hd]
  interval_cases d <;> rfl

/-- A numeral that does not begin with zero is the one its number is written with. -/
theorem digits_ofDigitChars {cs : List Char} (hne : cs ≠ [])
    (hdigits : ∀ c ∈ cs, c.isDigit = true) (hhead : cs.head? ≠ some '0') :
    0 < Nat.ofDigitChars 10 cs 0 ∧ digits (Nat.ofDigitChars 10 cs 0) = cs := by
  -- The last digit is the remainder, so the induction goes from the right.
  induction cs using List.reverseRecOn with
  | nil => contradiction
  | append_singleton front c ih =>
      have hc : c.isDigit = true := hdigits c (by simp)
      have hchar := digitChar_toNat_sub hc
      have hlt : c.toNat - 48 < 10 := by
        have hbound := (toNat_bounds_of_isDigit hc).2
        omega
      have hvalue : Nat.ofDigitChars 10 (front ++ [c]) 0 =
          10 * Nat.ofDigitChars 10 front 0 + (c.toNat - 48) := by
        rw [Nat.ofDigitChars_append, Nat.ofDigitChars_cons, Nat.ofDigitChars_nil]
        rfl
      have hlast : digits (c.toNat - 48) = [c] := by
        rw [digits, Nat.toDigits_of_lt_base hlt, hchar]
      rw [hvalue]
      cases front with
      | nil =>
          have hzero : c.toNat - 48 ≠ 0 := by
            intro h
            rw [h] at hchar
            exact hhead (by rw [← hchar]; rfl)
          simp only [Nat.ofDigitChars_nil, Nat.mul_zero, Nat.zero_add, List.nil_append]
          exact ⟨by omega, hlast⟩
      | cons first front =>
          obtain ⟨hpos, hfront⟩ := ih (by simp)
            (fun d hd => hdigits d (List.mem_append_left [c] hd)) hhead
          refine ⟨by omega, ?_⟩
          rw [digits, ← Nat.toDigits_append_toDigits (by decide) hpos hlt]
          exact congrArg₂ (· ++ ·) hfront hlast

/-- Every number has one canonical numeral. -/
theorem canonicalNumeral_iff {cs : List Char} {n : Nat} :
    CanonicalNumeral cs n ↔ cs = digits n := by
  constructor
  · rintro ⟨⟨hne, hdigits, rfl⟩, hleading⟩
    by_cases hhead : cs.head? = some '0'
    · rw [hleading hhead]
      rfl
    · exact (digits_ofDigitChars hne hdigits hhead).2.symm
  · rintro rfl
    refine ⟨decimalNumeral_digits n, ?_⟩
    intro hhead
    -- `digits n` is its last digit behind the digits of `n / 10`, which are none for small `n`.
    induction n using Nat.strongRecOn with
    | ind n ih =>
        by_cases hn : n < 10
        · rw [digits, Nat.toDigits_of_lt_base hn] at hhead ⊢
          simpa using hhead
        · exfalso
          have hsplit : digits n = digits (n / 10) ++ [(n % 10).digitChar] :=
            Nat.toDigits_of_base_le (by decide) (by omega)
          have hfront : (digits (n / 10)).head? = some '0' := by
            obtain ⟨c, cs, hcs, -⟩ := exists_digits_cons (n / 10)
            rw [hsplit, hcs] at hhead
            rw [hcs]
            exact hhead
          have hzero := ih (n / 10) (by omega) hfront
          have hvalue := (decimalNumeral_digits (n / 10)).value
          rw [hzero] at hvalue
          have : n / 10 = 0 := hvalue.symm
          omega

/-- What is left of the digits of a positive number never denotes zero. -/
theorem UnsignedNumeral.pos_of_beginning {cs : List Char} {m n : Nat} (h : UnsignedNumeral cs m)
    (hbegin : cs <+: digits n) (hn : 0 < n) : 0 < m := by
  have hcanonical : CanonicalNumeral (digits n) n := canonicalNumeral_iff.2 rfl
  cases h with
  | plus h => exact absurd (hbegin.mem List.mem_cons_self) (not_mem_digits (by decide) n)
  | plain h =>
      obtain ⟨c, rest, rfl⟩ := List.exists_cons_of_ne_nil h.nonempty
      have hhead : (c :: rest).head? ≠ some '0' := by
        intro hzero
        -- A written number that begins with a zero is zero.
        obtain ⟨tail, htail⟩ := hbegin
        have hdigits : digits n = ['0'] := hcanonical.leading (by rw [← htail]; exact hzero)
        have hvalue := hcanonical.value
        rw [hdigits] at hvalue
        exact hn.ne hvalue
      rw [← h.value]
      exact (digits_ofDigitChars h.nonempty h.digits hhead).1

/-- A written number ends where no further digit follows. -/
theorem digits_append_inj {m n : Nat} {rest rest' : List Char}
    (hrest : ∀ c ∈ rest.head?, c.isDigit = false) (hrest' : ∀ c ∈ rest'.head?, c.isDigit = false)
    (h : digits m ++ rest = digits n ++ rest') : m = n ∧ rest = rest' := by
  have hspan : ∀ (k : Nat) (tail : List Char), (∀ c ∈ tail.head?, c.isDigit = false) →
      (digits k ++ tail).takeWhile Char.isDigit = digits k := by
    intro k tail htail
    rw [List.takeWhile_append_of_pos fun c hc => isDigit_of_mem_digits hc]
    cases tail with
    | nil => simp
    | cons c tail => simp [htail c rfl]
  have hdigits : digits m = digits n := by
    rw [← hspan m rest hrest, h, hspan n rest' hrest']
  refine ⟨?_, ?_⟩
  · rw [← (decimalNumeral_digits m).value, hdigits, (decimalNumeral_digits n).value]
  · rw [hdigits] at h
    exact List.append_cancel_left h

end SampleForge.Text
