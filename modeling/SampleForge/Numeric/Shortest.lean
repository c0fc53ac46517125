import SampleForge.Numeric.Binary64

/-!
# Fewest decimal digits that read back

Every finite nonzero double has an interval of reals that round to it.  `shortest` looks for a
point of the grid of one digit in that interval, then of two digits, and so on; of two points of the
first grid that has any, the nearer one is taken, and an exact tie goes as the caller says.  Of a
grid only the two neighbours of the value need be looked at: if any point of the grid lies in the
interval, one of them does.
-/

namespace SampleForge.Numeric

/-- The number `digits · 10 ^ exponent`. -/
structure Decimal where
  digits : Nat
  exponent : Int
deriving DecidableEq

/-- What becomes of a value that lies exactly between two candidates. -/
inductive Tie where
  | toEven
  | upward
deriving DecidableEq

/-- The reals that round to one double; the ends belong to it exactly when `closed`. -/
structure RoundingInterval where
  lower : Rat
  upper : Rat
  closed : Bool

namespace RoundingInterval

/-- The interval of `significand · 2 ^ exponent`.  Below a power of two the doubles lie twice as
dense, so the lower end is nearer there. -/
def of (significand : Nat) (exponent : Int) : RoundingInterval :=
  let unit := (2 : Rat) ^ exponent
  let value := (significand : Rat) * unit
  let powerOfTwo := decide (significand = Binary64.hiddenBit) && decide (Binary64.leastExponent < exponent)
  ⟨value - (if powerOfTwo then unit / 4 else unit / 2), value + unit / 2, significand % 2 = 0⟩

def contains (i : RoundingInterval) (r : Rat) : Bool :=
  if i.closed then decide (i.lower ≤ r) && decide (r ≤ i.upper)
  else decide (i.lower < r) && decide (r < i.upper)

end RoundingInterval

/-- The multiple of `10 ^ exponent` in the interval that is nearest to `value`, if there is one. -/
def nearestOnGrid? (tie : Tie) (value : Rat) (interval : RoundingInterval) (exponent : Int) :
    Option Decimal :=
  let step := (10 : Rat) ^ exponent
  let scaled := value / step
  let below := scaled.floor.toNat
  let above := below + 1
  let rest := scaled - (below : Rat)
  let keepsBelow := interval.contains ((below : Rat) * step)
  let keepsAbove := interval.contains ((above : Rat) * step)
  let prefersBelow :=
    decide (rest < 1 / 2) ||
      (decide (rest = 1 / 2) && decide (tie = .toEven) && decide (below % 2 = 0))
  if keepsBelow && (prefersBelow || !keepsAbove) then some ⟨below, exponent⟩
  else if keepsAbove then some ⟨above, exponent⟩
  else none

/-- Moves trailing zeros of the digits into the exponent; `fuel` bounds their number. -/
def Decimal.trim : Nat → Decimal → Decimal
  | 0, d => d
  | fuel + 1, d =>
    if d.digits ≠ 0 ∧ d.digits % 10 = 0 then Decimal.trim fuel ⟨d.digits / 10, d.exponent + 1⟩
    else d

/-- Seventeen digits always suffice for a double. -/
def mostDigits : Nat := 17

/-- The shortest decimal in the interval of the positive double `significand · 2 ^ exponent`. -/
def shortest (tie : Tie) (significand : Nat) (exponent : Int) : Decimal :=
  let value := (significand : Rat) * (2 : Rat) ^ exponent
  let interval := RoundingInterval.of significand exponent
  let leading := floorLog10 value
  let found := (List.range mostDigits).findSome? fun (places : Nat) =>
    nearestOnGrid? tie value interval (leading - (places : Int))
  (found.getD ⟨0, 0⟩).trim mostDigits

end SampleForge.Numeric
