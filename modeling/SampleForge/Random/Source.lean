import SampleForge.Random.ChaCha

/-!
# Random sources

A `Source σ` answers two requests on a state of type `σ`: a uniform draw from the unit interval, and
a draw from `0, 1, …, bound - 1`.  Uniform draws are multiples of `2 ^ -53`, and are held by their
numerators.  That a bounded draw stays below a positive bound is part of the type; nothing else is
required of a source, so statements about sources hold for adversarial ones too.

`seeded` and `chachaSource` are the source that samples are grown from.  They stand for the seeded
generator of the package `rand`: `seeded` turns a seed of 64 bits into a ChaCha key, and
`chachaSource` draws from the key stream.  A uniform draw takes two words, the low one first, and
keeps their upper 53 bits.  A bounded draw multiplies a word by the bound and keeps the upper half of
the product, rejecting words whose lower half would favour some results.

That the draws are those of the package was tested and is not proved.  Nor is it proved that
`rejectionLimit` is never reached.  The package has no such limit; it is here for `drawBelow` to be a
function, and a stream that rejected so many words in a row would tell the two apart.
-/

namespace SampleForge.Random

/-- The number of bits of a uniform draw. -/
def unitBits : Nat := 53

/-- The number of values of a uniform draw, `2 ^ 53`. -/
def unitSteps : Nat := 9007199254740992

/-- A uniform draw from `[0, 1)`, by its numerator over `2 ^ 53`. -/
abbrev UnitDraw := Fin unitSteps

/-- A source of random draws with states in `σ`. -/
structure Source (σ : Type) where
  /-- A draw from the unit interval. -/
  uniform : σ → UnitDraw × σ
  /-- A draw from the numbers below a bound. -/
  below : UInt32 → σ → UInt32 × σ
  /-- Draws below a positive bound are below it. -/
  below_lt : ∀ (bound : UInt32) (state : σ), 0 < bound → (below bound state).1 < bound

/-! ## The seeded source -/

/-- One step of the permuted congruential generator that expands seeds: a new state and its output
word. -/
def expandStep (state : UInt64) : UInt32 × UInt64 :=
  let state := state * 6364136223846793005 + 11634580027462260723
  let folded := (((state >>> 18) ^^^ state) >>> 27).toUInt32
  let turn := (state >>> 59).toUInt32
  ((folded >>> turn) ||| (folded <<< ((32 - turn) % 32)), state)

/-- Four successive outputs. -/
def expandRow (state : UInt64) : ChaCha.Row × UInt64 :=
  let (w0, state) := expandStep state
  let (w1, state) := expandStep state
  let (w2, state) := expandStep state
  let (w3, state) := expandStep state
  (⟨w0, w1, w2, w3⟩, state)

/-- The key stream of a seed from its beginning. -/
def seeded (seed : UInt64) : ChaCha.KeyStream :=
  let (low, state) := expandRow seed
  let (high, _) := expandRow state
  .start ⟨low, high⟩

/-- Two words as one of 64 bits. -/
def joinWords (low high : UInt32) : UInt64 :=
  (high.toUInt64 <<< 32) ||| low.toUInt64

/-- The upper 53 bits of two words. -/
def unitOfWords (low high : UInt32) : UnitDraw :=
  ⟨(joinWords low high >>> 11).toNat, by
    have hw : (joinWords low high).toNat < 18446744073709551616 := (joinWords low high).toNat_lt
    have hs : (joinWords low high >>> 11).toNat = (joinWords low high).toNat / 2048 := by
      simp [UInt64.toNat_shiftRight, Nat.shiftRight_eq_div_pow]
    rw [hs]
    simp only [unitSteps]
    omega⟩

def drawUnit (s : ChaCha.KeyStream) : UnitDraw × ChaCha.KeyStream :=
  let (low, s) := s.word
  let (high, s) := s.word
  (unitOfWords low high, s)

/-- The largest lower half of a product that is accepted for a positive bound: one less than the
bound moved up as far as 32 bits allow. -/
def acceptedHalf (bound : Nat) : Nat :=
  (bound <<< (31 - bound.log2)) - 1

/-- How many words in a row may be rejected before a draw is given up. -/
def rejectionLimit : Nat := 4096

/-- Draws a number below `bound`, which is zero if no word is accepted in time. -/
def drawBelow (bound : UInt32) : Nat → ChaCha.KeyStream → UInt32 × ChaCha.KeyStream
  | 0, s => (0, s)
  | retries + 1, s =>
    let (w, s) := s.word
    let product := w.toNat * bound.toNat
    if product % 4294967296 ≤ acceptedHalf bound.toNat then
      (UInt32.ofNat (product / 4294967296), s)
    else drawBelow bound retries s

/-- A draw below a positive bound is below it. -/
theorem drawBelow_lt (bound : UInt32) (positive : 0 < bound) (retries : Nat)
    (s : ChaCha.KeyStream) : (drawBelow bound retries s).1 < bound := by
  induction retries generalizing s with
  | zero => exact positive
  | succ retries ih =>
    simp only [drawBelow]
    split
    · have hw : s.word.1.toNat < 4294967296 := s.word.1.toNat_lt
      have hb : 0 < bound.toNat := by simpa [UInt32.lt_iff_toNat_lt] using positive
      have small : s.word.1.toNat * bound.toNat / 4294967296 < bound.toNat := by
        rw [Nat.div_lt_iff_lt_mul (by decide), Nat.mul_comm bound.toNat]
        exact Nat.mul_lt_mul_of_pos_right hw hb
      have fits : bound.toNat < 4294967296 := bound.toNat_lt
      rw [UInt32.lt_iff_toNat_lt, UInt32.toNat_ofNat_of_lt' (Nat.lt_trans small fits)]
      exact small
    · exact ih _

/-- The key stream as a source of draws. -/
def chachaSource : Source ChaCha.KeyStream where
  uniform := drawUnit
  below := fun bound => drawBelow bound rejectionLimit
  below_lt := fun bound s positive => drawBelow_lt bound positive rejectionLimit s

end SampleForge.Random
