import Mathlib.Data.String.Basic
import Mathlib.Tactic

/-!
# The order of bytes

Texts are compared by code points, and what they are compared with elsewhere is their bytes.  The two
orders are one, `utf8_lt_iff`: a character of a greater code point has the greater encoding, and that is
settled within the encodings, so it does not matter what follows them.
-/

namespace SampleForge.Text

/-- The bytes of a text. -/
def utf8 (text : String) : List UInt8 := text.toUTF8.data.toList

theorem utf8_eq_flatMap (text : String) :
    utf8 text = text.toList.flatMap String.utf8EncodeChar := by
  conv_lhs => rw [← String.ofList_toList (s := text)]
  rw [utf8, String.toUTF8_eq_toByteArray]
  exact List.toList_data_toByteArray

/-! ## Two characters -/

section Characters

variable {v w : Nat}

theorem ofNat_lt_ofNat_iff (hv : v < 256) (hw : w < 256) :
    UInt8.ofNat v < UInt8.ofNat w ↔ v < w := by
  rw [UInt8.lt_iff_toNat_lt, UInt8.toNat_ofNat_of_lt' hv, UInt8.toNat_ofNat_of_lt' hw]

theorem ofNat_eq_ofNat_iff (hv : v < 256) (hw : w < 256) :
    UInt8.ofNat v = UInt8.ofNat w ↔ v = w := by
  rw [← UInt8.toNat_inj, UInt8.toNat_ofNat_of_lt' hv, UInt8.toNat_ofNat_of_lt' hw]

/-- Numbers are compared digit by digit in base 64; the last digit is the one at `place`. -/
theorem div_lt_div_iff_digit (v w place : Nat) :
    v / place < w / place ↔ v / (place * 64) < w / (place * 64) ∨
      v / (place * 64) = w / (place * 64) ∧ v / place % 64 < w / place % 64 := by
  rw [← Nat.div_div_eq_div_mul, ← Nat.div_div_eq_div_mul]
  omega

/-- The encoding of the smaller character is smaller, whatever comes behind the two. -/
theorem utf8EncodeChar_append_lt {c d : Char} (h : c < d) (s t : List UInt8) :
    String.utf8EncodeChar c ++ s < String.utf8EncodeChar d ++ t := by
  have hlt : c.val.toNat < d.val.toNat := UInt32.lt_iff_toNat_lt.1 h
  have hd : d.val.toNat < 1114112 := by
    have hvalid := d.valid
    unfold UInt32.isValidChar Nat.isValidChar at hvalid
    omega
  simp only [String.utf8EncodeChar]
  generalize c.val.toNat = v at *
  generalize d.val.toNat = w at *
  -- The bytes behind the first are the digits in base 64, and the first holds what is above them.
  have hdigits := div_lt_div_iff_digit v w 1
  have hdigits' := div_lt_div_iff_digit v w 64
  have hdigits'' := div_lt_div_iff_digit v w 4096
  simp only [Nat.div_one, Nat.one_mul, Nat.reduceMul] at hdigits hdigits' hdigits''
  have hv : v / 262144 % 8 = v / 262144 := Nat.mod_eq_of_lt (by omega)
  have hw : w / 262144 % 8 = w / 262144 := Nat.mod_eq_of_lt (by omega)
  rw [hv, hw]
  -- Encodings of different lengths differ in the first byte already.
  split_ifs <;>
    simp (disch := omega) only [List.cons_append, List.nil_append, List.cons_lt_cons_iff,
      ofNat_lt_ofNat_iff, ofNat_eq_ofNat_iff] <;>
    omega

end Characters

/-! ## Two texts -/

theorem flatMap_utf8EncodeChar_lt {cs ds : List Char} (h : cs < ds) :
    cs.flatMap String.utf8EncodeChar < ds.flatMap String.utf8EncodeChar := by
  induction cs generalizing ds with
  | nil =>
      cases ds with
      | nil => exact absurd h (List.lt_irrefl [])
      | cons d ds =>
          have hfilled : String.utf8EncodeChar d ≠ [] := String.utf8EncodeChar_ne_nil
          obtain ⟨byte, bytes, hbytes⟩ := List.exists_cons_of_ne_nil hfilled
          rw [List.flatMap_nil, List.flatMap_cons, hbytes]
          exact List.nil_lt_cons byte _
  | cons c cs ih =>
      cases ds with
      | nil => exact absurd h (List.not_lt_nil _)
      | cons d ds =>
          rw [List.flatMap_cons, List.flatMap_cons]
          rcases List.cons_lt_cons_iff.1 h with hlt | ⟨rfl, hlt⟩
          · exact utf8EncodeChar_append_lt hlt _ _
          · exact List.append_left_lt (ih hlt)

/-- Texts are in the order of their bytes. -/
theorem utf8_lt_iff {a b : String} : utf8 a < utf8 b ↔ a < b := by
  have hlt : ∀ {a b : String}, a < b → utf8 a < utf8 b := fun h => by
    rw [utf8_eq_flatMap, utf8_eq_flatMap]
    exact flatMap_utf8EncodeChar_lt (String.lt_iff_toList_lt.1 h)
  refine ⟨fun h => ?_, hlt⟩
  rcases lt_trichotomy a b with hab | rfl | hba
  · exact hab
  · exact absurd h (List.lt_irrefl _)
  · exact absurd (List.lt_trans h (hlt hba)) (List.lt_irrefl _)

end SampleForge.Text
