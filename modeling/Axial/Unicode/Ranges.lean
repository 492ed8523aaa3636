import Axial.Text.CharSet

/-!
# Tables of characters

Tables of characters are written as ranges of hexadecimal code points in increasing order, such as
`41-5A` or `AA`.

* `readRanges` : the set of a table.
-/

namespace Axial

namespace Unicode

/-- The value of a hexadecimal digit; digits are written in capitals. -/
def digitValue (c : Char) : Nat :=
  if c.isDigit then c.toNat - '0'.toNat else c.toNat - 'A'.toNat + 10

/-- Read the ranges of a line; `first` is the start of the range at hand, if it was read. -/
def readLine (first : Option Nat) (n : Nat) : List Char → List (Nat × Nat)
  | [] => [(first.getD n, n)]
  | '-' :: cs => readLine (some n) 0 cs
  | ' ' :: cs => (first.getD n, n) :: readLine none 0 cs
  | c :: cs => readLine first (16 * n + digitValue c) cs

/-- The set of a table. -/
def readRanges (lines : List String) : CharSet :=
  ⟨lines.flatMap fun line => readLine none 0 line.toList⟩

end Unicode

end Axial
