import SampleForge.Proofs.Generation.Names

/-!
# The order of the names of sample files

Digits of one length are in the order of the numbers they stand for, `lt_iff_ofDigitChars_lt`, and so
are the names of samples whose padded numbers have one length, `numberedName_lt_iff`.  Up to the largest
count of samples all of them have: the names of the samples of a request are in order.
-/

namespace SampleForge

namespace Text

/-- Lists of one length are compared before anything that stands behind them. -/
theorem append_lt_append_iff {cs ds : List Char} (hlength : cs.length = ds.length)
    (rest rest' : List Char) :
    cs ++ rest < ds ++ rest' ↔ cs < ds ∨ cs = ds ∧ rest < rest' := by
  induction cs generalizing ds with
  | nil =>
      obtain rfl := List.eq_nil_of_length_eq_zero hlength.symm
      simp
  | cons c cs ih =>
      obtain ⟨d, ds, rfl⟩ := List.exists_cons_of_length_eq_add_one hlength.symm
      have htail : cs.length = ds.length := Nat.succ.inj hlength
      rw [List.cons_append, List.cons_append, List.cons_lt_cons_iff, List.cons_lt_cons_iff, ih htail,
        List.cons.injEq]
      tauto

/-- What is less than a place cannot make up for a digit at that place. -/
theorem place_mul_add_lt_iff {place a b x y : Nat} (hx : x < place) (hy : y < place) :
    place * a + x < place * b + y ↔ a < b ∨ a = b ∧ x < y := by
  rcases lt_trichotomy a b with hlt | rfl | hlt
  · have hstep : place * (a + 1) ≤ place * b := Nat.mul_le_mul_left place hlt
    rw [Nat.mul_add, Nat.mul_one] at hstep
    omega
  · omega
  · have hstep : place * (b + 1) ≤ place * a := Nat.mul_le_mul_left place hlt
    rw [Nat.mul_add, Nat.mul_one] at hstep
    omega

/-- The first digit counts for all the places behind it. -/
theorem ofDigitChars_cons_eq (c : Char) (cs : List Char) :
    Nat.ofDigitChars 10 (c :: cs) 0 =
      10 ^ cs.length * (c.toNat - 48) + Nat.ofDigitChars 10 cs 0 := by
  rw [Nat.ofDigitChars_cons, Nat.ofDigitChars_eq_ofDigitChars_zero, Nat.mul_zero, Nat.zero_add]
  rfl

theorem ofDigitChars_lt {cs : List Char} (hcs : ∀ c ∈ cs, c.isDigit = true) :
    Nat.ofDigitChars 10 cs 0 < 10 ^ cs.length := by
  induction cs with
  | nil => simp
  | cons c cs ih =>
      obtain ⟨hc, hrest⟩ := List.forall_mem_cons.1 hcs
      have hbounds := toNat_bounds_of_isDigit hc
      have hlt := ih hrest
      have hfirst : 10 ^ cs.length * (c.toNat - 48) ≤ 10 ^ cs.length * 9 :=
        Nat.mul_le_mul_left _ (Nat.sub_le_of_le_add hbounds.2)
      rw [ofDigitChars_cons_eq, List.length_cons, Nat.pow_succ]
      omega

/-- Digits of one length are in the order of their numbers. -/
theorem lt_iff_ofDigitChars_lt {cs ds : List Char} (hlength : cs.length = ds.length)
    (hcs : ∀ c ∈ cs, c.isDigit = true) (hds : ∀ d ∈ ds, d.isDigit = true) :
    cs < ds ↔ Nat.ofDigitChars 10 cs 0 < Nat.ofDigitChars 10 ds 0 := by
  induction cs generalizing ds with
  | nil =>
      obtain rfl := List.eq_nil_of_length_eq_zero hlength.symm
      simp
  | cons c cs ih =>
      obtain ⟨d, ds, rfl⟩ := List.exists_cons_of_length_eq_add_one hlength.symm
      have htail : cs.length = ds.length := Nat.succ.inj hlength
      obtain ⟨hc, hcs⟩ := List.forall_mem_cons.1 hcs
      obtain ⟨hd, hds⟩ := List.forall_mem_cons.1 hds
      have hx := ofDigitChars_lt hcs
      have hy := ofDigitChars_lt hds
      rw [htail] at hx
      have hlow := (toNat_bounds_of_isDigit hc).1
      have hlow' := (toNat_bounds_of_isDigit hd).1
      have hless : c < d ↔ c.toNat - 48 < d.toNat - 48 := by
        have hcode : c < d ↔ c.toNat < d.toNat := UInt32.lt_iff_toNat_lt
        rw [hcode]
        omega
      have hsame : c = d ↔ c.toNat - 48 = d.toNat - 48 := by
        rw [← Char.toNat_inj]
        omega
      rw [List.cons_lt_cons_iff, ih htail hcs hds, ofDigitChars_cons_eq, ofDigitChars_cons_eq, htail,
        place_mul_add_lt_iff hx hy, hless, hsame]

end Text

namespace Sample

open Text

/-- Names whose numbers are padded to one length are in the order of the numbers. -/
theorem numberedName_lt_iff {index index' : Nat}
    (hlength : (paddedDigits 4 index).length = (paddedDigits 4 index').length) :
    numberedName index < numberedName index' ↔ index < index' := by
  rw [String.lt_iff_toList_lt, toList_numberedName, toList_numberedName, List.append_assoc,
    List.append_assoc, append_lt_append_iff rfl, append_lt_append_iff hlength]
  have hirrefl : ∀ cs : List Char, ¬ cs < cs := List.lt_irrefl
  simp only [hirrefl, and_false, or_false, false_or, true_and]
  rw [lt_iff_ofDigitChars_lt hlength (fun _ => isDigit_of_mem_paddedDigits)
    (fun _ => isDigit_of_mem_paddedDigits), ofDigitChars_paddedDigits, ofDigitChars_paddedDigits]

/-- The numbers up to the largest count are padded to one length. -/
theorem length_paddedDigits_eq_of_mem {count index index' : Nat} (hcount : count < 10 ^ 4)
    (hindex : index ∈ List.range' 1 count) (hindex' : index' ∈ List.range' 1 count) :
    (paddedDigits 4 index).length = (paddedDigits 4 index').length := by
  have hlength : ∀ number ∈ List.range' 1 count, (paddedDigits 4 number).length = 4 := by
    intro number hnumber
    rw [List.mem_range'_1] at hnumber
    exact length_paddedDigits (by decide) (by omega)
  rw [hlength index hindex, hlength index' hindex']

/-- The names of the numbers up to the largest count are in order. -/
theorem pairwise_numberedName {count : Nat} (hcount : count < 10 ^ 4) :
    ((List.range' 1 count).map numberedName).Pairwise (· < ·) := by
  rw [List.pairwise_map]
  refine List.Pairwise.imp_of_mem ?_ List.pairwise_lt_range'
  intro index index' hindex hindex' hlt
  rw [numberedName_lt_iff (length_paddedDigits_eq_of_mem hcount hindex hindex')]
  exact hlt

end Sample
end SampleForge
