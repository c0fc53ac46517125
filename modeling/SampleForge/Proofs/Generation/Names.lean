import Mathlib.Data.String.Basic
import SampleForge.Proofs.Text.Numerals
import SampleForge.Files.Store
import SampleForge.Sample

/-!
# The names of sample files

The name of a sample tells its number, `numberedName_injective`, and up to the largest count of samples
it is a name that an entry of a directory can have, `isName_numberedName`.
-/

namespace SampleForge

open Files

namespace Text

/-- Zeros in front do not change the number. -/
theorem ofDigitChars_paddedDigits (width n : Nat) :
    Nat.ofDigitChars 10 (paddedDigits width n) 0 = n := by
  have hdigits : Nat.ofDigitChars 10 (digits n) 0 = n :=
    Nat.ofDigitChars_toDigits (by decide) (by decide)
  rw [paddedDigits, Nat.ofDigitChars_append, Nat.ofDigitChars_replicate_zero, mul_zero, hdigits]

theorem isDigit_of_mem_paddedDigits {width n : Nat} {c : Char} (hc : c ∈ paddedDigits width n) :
    c.isDigit = true := by
  rcases List.mem_append.1 hc with hzero | hdigit
  · rw [List.eq_of_mem_replicate hzero]
    decide
  · exact isDigit_of_mem_digits hdigit

/-- Numbers that are not too long are padded to the width. -/
theorem length_paddedDigits {width n : Nat} (hwidth : 0 < width) (hn : n < 10 ^ width) :
    (paddedDigits width n).length = width := by
  have hlength : (digits n).length ≤ width :=
    (Nat.length_toDigits_le_iff (by decide) hwidth).2 hn
  rw [paddedDigits, List.length_append, List.length_replicate]
  omega

/-- No character takes more than four bytes. -/
theorem utf8Len_le (cs : List Char) : String.utf8Len cs ≤ 4 * cs.length := by
  induction cs with
  | nil => simp
  | cons c cs ih =>
      have hsize := c.utf8Size_le_four
      rw [String.utf8Len_cons, List.length_cons]
      omega

end Text

namespace Sample

open Text

theorem toList_numberedName (index : Nat) :
    (numberedName index).toList =
      "sample_".toList ++ paddedDigits 4 index ++ ".curlee".toList := by
  have happend : (numberedName index).toList = "sample_".toList ++ paddedDigits 4 index ++
      ".".toList ++ extension.toList := by
    simp only [numberedName, String.toList_append, String.toList_ofList]
  rw [happend, List.append_assoc]
  rfl

theorem numberedName_injective : Function.Injective numberedName := by
  intro index index' heq
  have hlists : "sample_".toList ++ paddedDigits 4 index ++ ".curlee".toList =
      "sample_".toList ++ paddedDigits 4 index' ++ ".curlee".toList := by
    rw [← toList_numberedName, ← toList_numberedName, heq]
  have hpadded : paddedDigits 4 index = paddedDigits 4 index' :=
    List.append_cancel_left (List.append_cancel_right hlists)
  calc index = Nat.ofDigitChars 10 (paddedDigits 4 index) 0 := (ofDigitChars_paddedDigits 4 _).symm
    _ = Nat.ofDigitChars 10 (paddedDigits 4 index') 0 := by rw [hpadded]
    _ = index' := ofDigitChars_paddedDigits 4 _

/-- The characters of a name of a sample are the fixed ones and digits. -/
theorem mem_numberedName {index : Nat} {c : Char} (hc : c ∈ (numberedName index).toList) :
    c ∈ "sample_.curlee".toList ∨ c.isDigit = true := by
  rw [toList_numberedName] at hc
  rcases List.mem_append.1 hc with hc | hend
  · rcases List.mem_append.1 hc with hstart | hdigit
    · exact .inl (List.mem_append_left ".curlee".toList hstart)
    · exact .inr (isDigit_of_mem_paddedDigits hdigit)
  · exact .inl (List.mem_append_right "sample_".toList hend)

theorem isName_numberedName {index : Nat} (hindex : index < 10 ^ 4) :
    IsName (numberedName index) := by
  have hhead : (numberedName index).toList.head? = some 's' := by
    rw [toList_numberedName]
    rfl
  have hother : ∀ text : String, text.toList.head? ≠ some 's' → numberedName index ≠ text := by
    rintro text htext rfl
    exact htext hhead
  have habsent : ∀ c ∉ "sample_.curlee".toList, c.isDigit = false →
      c ∉ (numberedName index).toList := by
    intro c hfixed hdigit hc
    rcases mem_numberedName hc with hmem | hmem
    · exact hfixed hmem
    · exact Bool.false_ne_true (hdigit.symm.trans hmem)
  -- Four digits of at most four bytes stand between the fixed parts.
  have hsize : (numberedName index).utf8ByteSize ≤ 255 := by
    have hlength := length_paddedDigits (by decide) hindex
    have hdigits := utf8Len_le (paddedDigits 4 index)
    have hfixed : String.utf8Len "sample_".toList = 7 ∧ String.utf8Len ".curlee".toList = 7 := by
      decide
    rw [← String.ofList_toList (s := numberedName index), String.utf8ByteSize_ofList,
      toList_numberedName, String.utf8Len_append, String.utf8Len_append]
    omega
  exact ⟨hother "" (by decide), hother "." (by decide), hother ".." (by decide),
    habsent '/' (by decide) (by decide), habsent '\x00' (by decide) (by decide), hsize⟩

/-- The name of a sample as the name of an entry. -/
def entryName (index : Nat) (hindex : index < 10 ^ 4) : Name :=
  ⟨numberedName index, isName_numberedName hindex⟩

theorem entryName_text (index : Nat) (hindex : index < 10 ^ 4) :
    (entryName index hindex).text = numberedName index := rfl

theorem entryName_inj {index index' : Nat} {hindex : index < 10 ^ 4} {hindex' : index' < 10 ^ 4}
    (h : entryName index hindex = entryName index' hindex') : index = index' := by
  have htexts := congrArg Name.text h
  rw [entryName_text, entryName_text] at htexts
  exact numberedName_injective htexts

end Sample
end SampleForge
