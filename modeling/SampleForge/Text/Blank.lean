/-!
# White space

`isBlank` is the Unicode property White_Space, all of it: the twenty-five code points are listed
range by range.  Trimming removes blank characters from the ends of a list of characters; a list is
blank when nothing else is in it.
-/

namespace SampleForge.Text

/-- The ranges of the property White_Space, ends included. -/
def blankRanges : List (Nat × Nat) :=
  [(0x0009, 0x000D), (0x0020, 0x0020), (0x0085, 0x0085), (0x00A0, 0x00A0), (0x1680, 0x1680),
    (0x2000, 0x200A), (0x2028, 0x2029), (0x202F, 0x202F), (0x205F, 0x205F), (0x3000, 0x3000)]

/-- Whether a character has the property White_Space. -/
def isBlank (c : Char) : Bool :=
  blankRanges.any fun range => decide (range.1 ≤ c.toNat) && decide (c.toNat ≤ range.2)

def trimStart (cs : List Char) : List Char :=
  cs.dropWhile isBlank

def trimEnd (cs : List Char) : List Char :=
  (cs.reverse.dropWhile isBlank).reverse

/-- Removes the blank characters at both ends. -/
def trim (cs : List Char) : List Char :=
  trimEnd (trimStart cs)

/-- Whether a text holds blank characters only. -/
def allBlank (cs : List Char) : Bool :=
  cs.all isBlank

/-- The property has twenty-five members. -/
example : (blankRanges.map fun range => range.2 + 1 - range.1).foldl (· + ·) 0 = 25 := by decide

end SampleForge.Text
