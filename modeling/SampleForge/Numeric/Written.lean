import SampleForge.Numeric.Shortest

/-!
# Written forms of doubles

Three forms are in use.  `plain` writes every digit positionally and no point where none is needed;
`pointed` adds `.0` to a finite number without a point; `report` is the form of the timing report,
which leaves the positional form outside `1e-5 ≤ x < 1e16`.  All three write the shortest digits
that read back.  `fixed` writes a rational with a set number of places.
-/

namespace SampleForge.Numeric

/-- How finite doubles are written. -/
structure FloatForm where
  /-- What becomes of a value exactly between two shortest candidates. -/
  tie : Tie
  /-- Whether a value whose first digit has this weight is written without an exponent. -/
  positional : Int → Bool
  /-- Whether an integral value is written with `.0`. -/
  showsPoint : Bool

namespace FloatForm

def plain : FloatForm := ⟨.upward, fun _ => true, false⟩

def pointed : FloatForm := ⟨.upward, fun _ => true, true⟩

def report : FloatForm := ⟨.toEven, fun weight => decide (-5 ≤ weight) && decide (weight < 16), true⟩

end FloatForm

/-- `digits · 10 ^ exponent` without an exponent. -/
def Decimal.positional (d : Decimal) (showsPoint : Bool) : String :=
  let digits := Nat.toDigits 10 d.digits
  if 0 ≤ d.exponent then
    String.ofList (digits ++ List.replicate d.exponent.toNat '0') ++ (if showsPoint then ".0" else "")
  else
    let places := (-d.exponent).toNat
    let padded := List.replicate (places + 1 - digits.length) '0' ++ digits
    let whole := padded.length - places
    String.ofList (padded.take whole) ++ "." ++ String.ofList (padded.drop whole)

/-- `digits · 10 ^ exponent` with one digit before the point and a signed exponent. -/
def Decimal.scientific (d : Decimal) : String :=
  match Nat.toDigits 10 d.digits with
  | [] => ""
  | first :: rest =>
    let weight := d.exponent + (rest.length : Int)
    let fraction := if rest.isEmpty then "" else "." ++ String.ofList rest
    let sign := if weight < 0 then "-" else "+"
    first.toString ++ fraction ++ "e" ++ sign ++ toString weight.natAbs

/-- The text of a double in the given form. -/
def Binary64.write (form : FloatForm) (x : Binary64) : String :=
  match x.value with
  | .nan => "NaN"
  | .infinite negative => if negative then "-inf" else "inf"
  | .finite negative significand exponent =>
    let sign := if negative then "-" else ""
    if significand = 0 then sign ++ (if form.showsPoint then "0.0" else "0")
    else
      let d := shortest form.tie significand exponent
      let weight := d.exponent + (decimalLength d.digits : Int) - 1
      sign ++ (if form.positional weight then d.positional form.showsPoint else d.scientific)

/-- A nonnegative rational with exactly `places` digits after the point, for at least one place; a
half goes to the even neighbour. -/
def fixed (places : Nat) (r : Rat) : String :=
  let scaled := (roundHalfEven (r * (10 : Rat) ^ (places : Int))).toNat
  (⟨scaled, -(places : Int)⟩ : Decimal).positional true

end SampleForge.Numeric
