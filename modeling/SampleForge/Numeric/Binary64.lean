/-!
# Binary floating point of 64 bits

A `Binary64` is held as its bits.  `Binary64.value` decodes them, `Binary64.toRat?` gives the exact
rational of a finite one, and `Binary64.ofRat` rounds a rational to the nearest one, ties going to
the even significand.  Arithmetic is exact rational arithmetic followed by one such rounding.  Only
the operations that timing needs are here: no square root, no remainder, no operation that would
have to settle the sign of a zero sum.

`roundHalfEven` is the integer nearest to a rational, the even one when two are equally near.
`floorLog2` and `floorLog10` are the exponents of the powers of two and ten just below a positive
rational.  All of them are exact: nothing here passes through machine floating point.
-/

namespace SampleForge.Numeric

/-! ## Rounding rationals -/

/-- The integer nearest to `r`; of two equally near integers the even one. -/
def roundHalfEven (r : Rat) : Int :=
  let below := r.floor
  let rest := r - (below : Rat)
  if rest < 1 / 2 then below
  else if 1 / 2 < rest then below + 1
  else if below % 2 = 0 then below
  else below + 1

/-- The largest `e` with `2 ^ e ≤ r`, for `0 < r`. -/
def floorLog2 (r : Rat) : Int :=
  let e := (r.num.natAbs.log2 : Int) - (r.den.log2 : Int)
  if (2 : Rat) ^ e ≤ r then e else e - 1

/-- The number of decimal digits of `n`. -/
def decimalLength (n : Nat) : Nat :=
  (Nat.toDigits 10 n).length

/-- The largest `e` with `10 ^ e ≤ r`, for `0 < r`. -/
def floorLog10 (r : Rat) : Int :=
  let e := (decimalLength r.num.natAbs : Int) - (decimalLength r.den : Int)
  if (10 : Rat) ^ e ≤ r then e else e - 1

/-! ## Doubles -/

/-- A double of IEEE 754, given by its 64 bits. -/
structure Binary64 where
  bits : UInt64
deriving DecidableEq, Inhabited

namespace Binary64

/-- What the bits of a double stand for; a finite one is `± significand · 2 ^ exponent`. -/
inductive Value where
  | nan
  | infinite (negative : Bool)
  | finite (negative : Bool) (significand : Nat) (exponent : Int)
deriving DecidableEq

/-- `2 ^ 52`, the weight of the bit that a normal significand leaves out. -/
def hiddenBit : Nat := 4503599627370496

/-- `2 ^ 63`, the weight of the sign bit. -/
def signBit : Nat := 9223372036854775808

/-- The exponent of the smallest positive double. -/
def leastExponent : Int := -1074

/-- The bits of positive infinity: eleven ones above an empty fraction. -/
def infinityBits : Nat := 2047 * hiddenBit

def value (x : Binary64) : Value :=
  let bits := x.bits.toNat
  let negative := decide (signBit ≤ bits)
  let biased := bits / hiddenBit % 2048
  let fraction := bits % hiddenBit
  if biased = 2047 then
    if fraction = 0 then .infinite negative else .nan
  else if biased = 0 then .finite negative fraction leastExponent
  else .finite negative (hiddenBit + fraction) ((biased : Int) - 1075)

/-- The exact rational a finite double stands for; both zeros give `0`. -/
def toRat? (x : Binary64) : Option Rat :=
  match x.value with
  | .finite negative significand exponent =>
    let magnitude := (significand : Rat) * (2 : Rat) ^ exponent
    some (if negative then -magnitude else magnitude)
  | _ => none

/-- The bits of the double nearest to a nonnegative rational.  A significand that rounds up to the
next power of two carries into the exponent field, which is where it belongs. -/
def magnitudeBits (r : Rat) : Nat :=
  if r ≤ 0 then 0
  else
    let exponent := max leastExponent (floorLog2 r - 52)
    let significand := (roundHalfEven (r * (2 : Rat) ^ (-exponent))).toNat
    min infinityBits ((exponent - leastExponent).toNat * hiddenBit + significand)

/-- The double nearest to `± r` for a nonnegative `r`; too large a magnitude is infinite. -/
def ofMagnitude (negative : Bool) (r : Rat) : Binary64 :=
  ⟨UInt64.ofNat (if negative then signBit + magnitudeBits r else magnitudeBits r)⟩

/-- The double nearest to `r`; zero is the positive zero. -/
def ofRat (r : Rat) : Binary64 :=
  if r < 0 then ofMagnitude true (-r) else ofMagnitude false r

def nan : Binary64 := ⟨UInt64.ofNat (infinityBits + hiddenBit / 2)⟩

def infinity (negative : Bool) : Binary64 :=
  ⟨UInt64.ofNat (if negative then signBit + infinityBits else infinityBits)⟩

/-- Applies an exact operation to two finite doubles and rounds once; anything else is not a
number. -/
def roundedOp (op : Rat → Rat → Rat) (x y : Binary64) : Binary64 :=
  match x.toRat?, y.toRat? with
  | some a, some b => ofRat (op a b)
  | _, _ => nan

/-- The rounded sum of finite doubles. -/
def add (x y : Binary64) : Binary64 := roundedOp (fun a b => a + b) x y

/-- The rounded quotient of finite doubles, for a divisor other than zero. -/
def div (x y : Binary64) : Binary64 := roundedOp (fun a b => a / b) x y

def ofNat (n : Nat) : Binary64 := ofRat (n : Rat)

/-- Whether `n / 2 ^ k < x`, both read as real numbers; no number lies below a NaN.  Both sides are
brought to the same power of two, so that only natural numbers are compared. -/
def exceedsDyadic (x : Binary64) (n k : Nat) : Bool :=
  match x.value with
  | .nan => false
  | .infinite negative => !negative
  | .finite true _ _ => false
  | .finite false significand exponent =>
    let shift := exponent + k
    if 0 ≤ shift then n < significand <<< shift.toNat else n <<< (-shift).toNat < significand

/-- Whether `x` is a number of the closed unit interval; the negative zero is one. -/
def inUnitInterval (x : Binary64) : Bool :=
  x.toRat?.any fun a => decide (0 ≤ a) && decide (a ≤ 1)

end Binary64
end SampleForge.Numeric
