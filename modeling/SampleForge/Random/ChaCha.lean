/-!
# The ChaCha key stream

The block function of ChaCha with twelve rounds, a 64-bit block counter and the stream identifier
zero, and the endless stream of 32-bit words that the blocks `0, 1, 2, …` make up.  Words are handed
out one after another without gaps, so that it never matters where a block ends.
-/

namespace SampleForge.Random.ChaCha

/-- Four words, one row of the cipher's square. -/
structure Row where
  w0 : UInt32
  w1 : UInt32
  w2 : UInt32
  w3 : UInt32

namespace Row

@[inline]
def zipWith (f : UInt32 → UInt32 → UInt32) (a b : Row) : Row :=
  ⟨f a.w0 b.w0, f a.w1 b.w1, f a.w2 b.w2, f a.w3 b.w3⟩

@[inline]
def map (f : UInt32 → UInt32) (a : Row) : Row :=
  ⟨f a.w0, f a.w1, f a.w2, f a.w3⟩

/-- Moves every word one lane to the left, the first one to the end. -/
def shift (a : Row) : Row :=
  ⟨a.w1, a.w2, a.w3, a.w0⟩

def toList (a : Row) : List UInt32 :=
  [a.w0, a.w1, a.w2, a.w3]

end Row

/-- The square of sixteen words. -/
structure Square where
  a : Row
  b : Row
  c : Row
  d : Row

def rotateLeft (x k : UInt32) : UInt32 :=
  (x <<< k) ||| (x >>> (32 - k))

def addRows (x y : Row) : Row := x.zipWith (fun p q => p + q) y

/-- Exclusive or of two rows, then a rotation of every word. -/
def xorRotate (k : UInt32) (x y : Row) : Row :=
  (x.zipWith (fun p q => p ^^^ q) y).map fun w => rotateLeft w k

/-- The quarter round, on all four columns at once. -/
def columnRound (s : Square) : Square :=
  let a := addRows s.a s.b
  let d := xorRotate 16 s.d a
  let c := addRows s.c d
  let b := xorRotate 12 s.b c
  let a := addRows a b
  let d := xorRotate 8 d a
  let c := addRows c d
  let b := xorRotate 7 b c
  ⟨a, b, c, d⟩

/-- A column round and a diagonal round: the diagonals are brought into columns and back. -/
def doubleRound (s : Square) : Square :=
  let s := columnRound s
  let s := columnRound ⟨s.a, s.b.shift, s.c.shift.shift, s.d.shift.shift.shift⟩
  ⟨s.a, s.b.shift.shift.shift, s.c.shift.shift, s.d.shift⟩

/-- Twelve rounds. -/
def doubleRounds : Nat := 6

/-- Eight words of key. -/
structure Key where
  low : Row
  high : Row

/-- The words `expand 32-byte k`. -/
def constants : Row := ⟨0x61707865, 0x3320646e, 0x79622d32, 0x6b206574⟩

/-- The block of the given number. -/
def block (key : Key) (number : UInt64) : List UInt32 :=
  let start : Square :=
    ⟨constants, key.low, key.high, ⟨number.toUInt32, (number >>> 32).toUInt32, 0, 0⟩⟩
  let mixed := (List.range doubleRounds).foldl (fun s _ => doubleRound s) start
  (addRows mixed.a start.a).toList ++ (addRows mixed.b start.b).toList ++
    (addRows mixed.c start.c).toList ++ (addRows mixed.d start.d).toList

/-- A position in the key stream: the words of the current block that are still to come, and the
number of the block after it. -/
structure KeyStream where
  key : Key
  next : UInt64
  pending : List UInt32

/-- The key stream from its first word. -/
def KeyStream.start (key : Key) : KeyStream := ⟨key, 0, []⟩

/-- The next word. -/
def KeyStream.word (s : KeyStream) : UInt32 × KeyStream :=
  match s.pending with
  | w :: rest => (w, { s with pending := rest })
  | [] =>
    match block s.key s.next with
    | w :: rest => (w, { s with next := s.next + 1, pending := rest })
    | [] => (0, { s with next := s.next + 1 })

end SampleForge.Random.ChaCha
