import SampleForge.Numeric.Binary64

/-!
# Reading decimal literals

`readBinary64?` reads a decimal literal as the nearest double.  A literal is an optional sign and
then either `inf`, `infinity` or `nan` in any case, or digits with an optional point and an optional
exponent; at least one digit stands before the exponent.
-/

namespace SampleForge.Numeric

/-- Beyond this many decimal places from the point every double is zero or infinite. -/
def exponentReach : Int := 400

/-- The double nearest to `± digits · 10 ^ exponent`.  Magnitudes far outside the range of doubles
are settled by their size alone, so that no huge power is ever formed. -/
def ofDecimal (negative : Bool) (digits : Nat) (exponent : Int) : Binary64 :=
  if digits = 0 then .ofMagnitude negative 0
  else
    let weight := exponent + (decimalLength digits : Int)
    if exponentReach < weight then .infinity negative
    else if weight < -exponentReach then .ofMagnitude negative 0
    else .ofMagnitude negative ((digits : Rat) * (10 : Rat) ^ exponent)

/-- Reads an exponent: an optional sign and at least one digit. -/
def readExponent? (cs : List Char) : Option Int :=
  let (negative, digits) := match cs with
    | '-' :: rest => (true, rest)
    | '+' :: rest => (false, rest)
    | _ => (false, cs)
  if digits.isEmpty || !digits.all Char.isDigit then none
  else
    let n : Int := Nat.ofDigitChars 10 digits 0
    some (if negative then -n else n)

/-- Reads an unsigned decimal literal. -/
def readMagnitude? (negative : Bool) (cs : List Char) : Option Binary64 :=
  let whole := cs.takeWhile Char.isDigit
  let afterWhole := cs.dropWhile Char.isDigit
  let (fraction, rest) := match afterWhole with
    | '.' :: tail => (tail.takeWhile Char.isDigit, tail.dropWhile Char.isDigit)
    | _ => ([], afterWhole)
  let exponent? := match rest with
    | [] => some 0
    | c :: tail => if c = 'e' ∨ c = 'E' then readExponent? tail else none
  if whole.isEmpty && fraction.isEmpty then none
  else exponent?.map fun exponent =>
    ofDecimal negative (Nat.ofDigitChars 10 (whole ++ fraction) 0) (exponent - (fraction.length : Int))

/-- Reads a decimal literal as the nearest double. -/
def readBinary64? (text : String) : Option Binary64 :=
  let (negative, rest) := match text.toList with
    | '-' :: tail => (true, tail)
    | '+' :: tail => (false, tail)
    | cs => (false, cs)
  let word := String.ofList (rest.map Char.toLower)
  if word = "inf" ∨ word = "infinity" then some (.infinity negative)
  else if word = "nan" then some .nan
  else readMagnitude? negative rest

end SampleForge.Numeric
