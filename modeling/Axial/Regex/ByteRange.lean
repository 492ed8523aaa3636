import Axial.Text.CharSet

/-!
# Characters as bytes

A character is written as one to four bytes. The characters of a set are written as rows of byte
ranges, such that a row stands for all rows of bytes from its ranges.

* `Bytes.encode` : the bytes of a character.
* `Bytes.rows` : the rows of a set.
-/

namespace Axial

namespace Bytes

/-- The bytes of a code point. -/
def encode (n : Nat) : List Nat :=
  if n < 0x80 then [n]
  else if n < 0x800 then [0xC0 + n / 64, 0x80 + n % 64]
  else if n < 0x10000 then [0xE0 + n / 4096, 0x80 + n / 64 % 64, 0x80 + n % 64]
  else [0xF0 + n / 262144, 0x80 + n / 4096 % 64, 0x80 + n / 64 % 64, 0x80 + n % 64]

/-- The parts of the code points that have the same number of bytes; some are no characters. -/
def zones : List (Nat × Nat) :=
  [(0, 0x7F), (0x80, 0x7FF), (0x800, 0xD7FF), (0xE000, 0xFFFF), (0x10000, 0x10FFFF)]

/-- The parts of a range in each zone. -/
def byZone (range : Nat × Nat) : List (Nat × Nat) :=
  (zones.map fun zone => (max zone.1 range.1, min zone.2 range.2)).filter fun part =>
    part.1 ≤ part.2

/-- Cut a range that reaches over several blocks of a size into whole blocks and what stands out
of them at either end. -/
def byBlock (size : Nat) (range : Nat × Nat) : List (Nat × Nat) :=
  let (first, last) := range
  if first / size = last / size then [range]
  else
    let front := if first % size = 0 then [] else [(first, first - first % size + size - 1)]
    let start := if first % size = 0 then first else first - first % size + size
    if start / size = last / size ∨ last % size = size - 1 then front ++ [(start, last)]
    else front ++ [(start, last - last % size - 1), (last - last % size, last)]

/-- The rows of byte ranges of a set. -/
def rows (set : CharSet) : List (List (Nat × Nat)) :=
  let parts := set.ranges.flatMap fun range =>
    ((byZone range).flatMap (byBlock 64)).flatMap fun part =>
      (byBlock 4096 part).flatMap (byBlock 262144)
  parts.map fun part => (encode part.1).zip (encode part.2)

end Bytes

end Axial
