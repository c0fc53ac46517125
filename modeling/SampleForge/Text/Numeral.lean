/-!
# Decimal numerals

Numbers are written without leading zeros and read back within the limits of their type.  A signed
numeral may begin with `+` or `-`, an unsigned one with `+`; after the sign stands at least one
digit, digits are those of ASCII, and leading zeros are accepted.
-/

namespace SampleForge.Text

/-- The digits of `n`, most significant first. -/
def digits (n : Nat) : List Char :=
  Nat.toDigits 10 n

/-- The digits of `n`, filled up with leading zeros to at least `width`. -/
def paddedDigits (width n : Nat) : List Char :=
  List.replicate (width - (digits n).length) '0' ++ digits n

/-- The numeral of an integer: a minus sign if it is negative, and the digits of its magnitude. -/
def integerDigits (i : Int) : List Char :=
  if i < 0 then '-' :: digits i.natAbs else digits i.natAbs

/-- Reads digits, at least one, and nothing else. -/
def readNat? (cs : List Char) : Option Nat :=
  if cs.isEmpty || !cs.all Char.isDigit then none else some (Nat.ofDigitChars 10 cs 0)

/-- Reads an unsigned numeral. -/
def readUnsigned? : List Char → Option Nat
  | '+' :: rest => readNat? rest
  | cs => readNat? cs

/-- Reads a signed numeral. -/
def readSigned? : List Char → Option Int
  | '+' :: rest => (readNat? rest).map fun n => (n : Int)
  | '-' :: rest => (readNat? rest).map fun n => -(n : Int)
  | cs => (readNat? cs).map fun n => (n : Int)

/-- Reads an unsigned numeral of 64 bits. -/
def readUInt64? (cs : List Char) : Option UInt64 :=
  (readUnsigned? cs).bind fun n => if n < UInt64.size then some (UInt64.ofNat n) else none

/-- Whether an integer is one of 64 bits with sign. -/
def isInt64 (i : Int) : Bool :=
  decide (-9223372036854775808 ≤ i) && decide (i ≤ 9223372036854775807)

/-- Reads a signed numeral of 64 bits. -/
def readInt64? (cs : List Char) : Option Int64 :=
  (readSigned? cs).bind fun i => if isInt64 i then some (Int64.ofInt i) else none

end SampleForge.Text
