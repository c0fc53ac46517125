import SampleForge.Proofs.Generation.NameOrder
import SampleForge.Proofs.Generation.Samples
import SampleForge.Proofs.Text.ByteOrder

/-!
# Why samples are limited in number

The names of samples tell their numbers apart whatever the count is.  They are in the order of the numbers
as long as the padded numbers have one length, which they have up to 9999; the name of number 10000 does not
come behind that of number 9999.  So requests are limited where their files stop being in the order of
their numbers: `namesInOrder_iff`, and `count_limit_is_end_of_name_order` for the check of a request.
-/

namespace SampleForge

open Text

namespace Sample

/-- The names of the samples up to a count are in the order of their numbers. -/
def NamesInOrder (count : Nat) : Prop :=
  ∀ i ∈ List.range' 1 count, ∀ j ∈ List.range' 1 count,
    (utf8 (numberedName i) < utf8 (numberedName j) ↔ i < j)

/-- In bytes as well, names whose numbers are padded to one length are in the order of the numbers. -/
theorem utf8_numberedName_lt_iff {i j : Nat}
    (hlength : (paddedDigits 4 i).length = (paddedDigits 4 j).length) :
    utf8 (numberedName i) < utf8 (numberedName j) ↔ i < j := by
  rw [utf8_lt_iff, numberedName_lt_iff hlength]

/-- The name behind the limit does not follow: its number begins with a one. -/
theorem not_utf8_numberedName_limit_lt :
    ¬ utf8 (numberedName 9999) < utf8 (numberedName 10000) := by
  rw [utf8_lt_iff]
  decide

theorem namesInOrder_iff {count : Nat} : NamesInOrder count ↔ count ≤ 9999 := by
  constructor
  · intro h
    by_contra hcount
    have hmem : 9999 ∈ List.range' 1 count ∧ 10000 ∈ List.range' 1 count := by
      simp only [List.mem_range'_1]
      omega
    exact not_utf8_numberedName_limit_lt ((h 9999 hmem.1 10000 hmem.2).2 (by decide))
  · intro hcount i hi j hj
    exact utf8_numberedName_lt_iff (length_paddedDigits_eq_of_mem (by omega) hi hj)

/-- Names that increase from number to number are in the order of the numbers. -/
theorem pairwise_utf8_numberedName_iff {count : Nat} :
    ((List.range' 1 count).map fun i => utf8 (numberedName i)).Pairwise (· < ·) ↔
      NamesInOrder count := by
  rw [List.pairwise_map]
  constructor
  · intro h
    have hforward : ∀ i ∈ List.range' 1 count, ∀ j ∈ List.range' 1 count, i < j →
        utf8 (numberedName i) < utf8 (numberedName j) := by
      intro i hi j hj hij
      rw [List.mem_range'_1] at hi hj
      -- The names are numbered from one, and their positions from zero.
      have hget := List.pairwise_iff_getElem.1 h (i - 1) (j - 1)
        (by rw [List.length_range']; omega) (by rw [List.length_range']; omega) (by omega)
      rw [List.getElem_range', List.getElem_range', Nat.one_mul, Nat.one_mul,
        Nat.add_sub_cancel' hi.1, Nat.add_sub_cancel' hj.1] at hget
      exact hget
    intro i hi j hj
    refine ⟨fun hbytes => ?_, hforward i hi j hj⟩
    by_contra hij
    rcases Nat.lt_or_eq_of_le (Nat.not_lt.1 hij) with hji | rfl
    · exact List.lt_irrefl _ (List.lt_trans hbytes (hforward j hj i hi hji))
    · exact List.lt_irrefl _ hbytes
  · intro h
    refine List.Pairwise.imp_of_mem ?_ List.pairwise_lt_range'
    exact fun hi hj hij => (h _ hi _ hj).2 hij

end Sample

/-- The names of samples are different for every count, and they increase up to 9999 and not beyond.  So a
request that is to grow its samples in an allowed way passes its check exactly if it asks for samples at
all and their names are in the order of their numbers.  Beyond the limit, too, names are in the order of
numbers that are padded to one length. -/
theorem count_limit_is_end_of_name_order :
    (∀ count : UInt32, ((List.range' 1 count.toNat).map Sample.numberedName).Nodup ∧
      (((List.range' 1 count.toNat).map fun i => utf8 (Sample.numberedName i)).Pairwise (· < ·) ↔
        count ≤ 9999)) ∧
    (∀ request : SampleRequest, request.growth.check = .ok () →
      (request.check = .ok () ↔
        1 ≤ request.count ∧ Sample.NamesInOrder request.count.toNat)) ∧
    ∀ i j : UInt32, (paddedDigits 4 i.toNat).length = (paddedDigits 4 j.toNat).length →
      (utf8 (Sample.numberedName i.toNat) < utf8 (Sample.numberedName j.toNat) ↔ i < j) := by
  have hlimit : ∀ count : UInt32, Sample.NamesInOrder count.toNat ↔ count ≤ 9999 := by
    intro count
    rw [Sample.namesInOrder_iff, UInt32.le_iff_toNat_le]
    rfl
  refine ⟨fun count => ⟨?_, Sample.pairwise_utf8_numberedName_iff.trans (hlimit count)⟩, ?_, ?_⟩
  · exact List.Nodup.map Sample.numberedName_injective List.nodup_range'
  · intro request hgrowth
    rw [SampleRequest.check_eq_ok_iff, and_iff_left hgrowth, hlimit, ← UInt32.pos_iff_ne_zero]
    rfl
  · intro i j hlength
    rw [Sample.utf8_numberedName_lt_iff hlength, UInt32.lt_iff_toNat_lt]

/-- The built-in request passes its check with the count of 9999, for which the names are in order, and not
with 10000; and the names of the two largest numbers are in order as well. -/
theorem count_limit_is_end_of_name_order_edges :
    SampleRequest.default.growth.check = .ok () ∧
      ({ SampleRequest.default with count := 9999 } : SampleRequest).check = .ok () ∧
      Sample.NamesInOrder 9999 ∧
      ({ SampleRequest.default with count := 10000 } : SampleRequest).check ≠ .ok () ∧
      ¬ Sample.NamesInOrder 10000 ∧
      (paddedDigits 4 4294967294).length = (paddedDigits 4 4294967295).length ∧
      utf8 (Sample.numberedName 4294967294) < utf8 (Sample.numberedName 4294967295) := by
  obtain ⟨-, hchecked, hordered⟩ := count_limit_is_end_of_name_order
  have hgrowth : SampleRequest.default.growth.check = .ok () := by decide +kernel
  have hlast := hchecked { SampleRequest.default with count := 9999 } hgrowth
  have hbeyond := hchecked { SampleRequest.default with count := 10000 } hgrowth
  have hpasses : ({ SampleRequest.default with count := 9999 } : SampleRequest).check = .ok () := by
    decide +kernel
  have hfails : ({ SampleRequest.default with count := 10000 } : SampleRequest).check ≠ .ok () := by
    decide +kernel
  have hlength : (paddedDigits 4 4294967294).length = (paddedDigits 4 4294967295).length := by decide
  refine ⟨hgrowth, hpasses, (hlast.1 hpasses).2, hfails,
    fun horder => hfails (hbeyond.2 ⟨by decide, horder⟩), hlength, ?_⟩
  exact (hordered 4294967294 4294967295 hlength).2 (by decide)

end SampleForge
