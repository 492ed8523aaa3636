import Axial.Decimal.Basic
import Axial.Decimal.Binary64

/-!
# Literals of numbers and truth values

How the operands of a query are read as values.

* `readInt?` : an optional sign and digits, within 64 bits.
* `readFloat?` : an optional sign and a decimal with an optional point and exponent, or one of the
  words `inf`, `infinity` and `nan` in any case. Every decimal is read as the nearest number.
* `readBool?` : exactly `true` or `false`.
* `floatText`, `intText` : the texts that numbers are written as.
-/

namespace Axial

namespace Literal

/-! ### Digits -/

/-- The number that a row of digits stands for. -/
def ofDigits (digits : List Char) : Nat :=
  digits.foldl (fun n c => 10 * n + (c.toNat - '0'.toNat)) 0

/-- Split off an optional sign; the flag says whether it was a minus. -/
def splitSign : List Char → Bool × List Char
  | '-' :: cs => (true, cs)
  | '+' :: cs => (false, cs)
  | cs => (false, cs)

/-- A natural number written in digits only, and at least one of them. -/
def readDigits? (cs : List Char) : Option Nat :=
  if cs ≠ [] ∧ cs.all Char.isDigit then some (ofDigits cs) else none

/-- A signed whole number. -/
def readSigned? (cs : List Char) : Option Int :=
  let (negative, digits) := splitSign cs
  (readDigits? digits).map fun n => if negative then -(n : Int) else n

/-! ### Whole numbers -/

/-- The least whole number of 64 bits. -/
def minInt : Int := -2 ^ 63

/-- The largest whole number of 64 bits. -/
def maxInt : Int := 2 ^ 63 - 1

/-- A whole number as a 64-bit word, if it is one. -/
def toWord? (n : Int) : Option Int64 :=
  if minInt ≤ n ∧ n ≤ maxInt then some (Int64.ofInt n) else none

/-- Read a whole number of 64 bits. -/
def readInt? (literal : String) : Option Int64 :=
  (readSigned? literal.toList).bind toWord?

/-- The text of a whole number. -/
def intText (n : Int64) : String :=
  toString n.toInt

/-! ### Floating-point numbers -/

/-- Read an exponent, with its `e`; nothing at all is the exponent zero. -/
def readExponent? : List Char → Option Int
  | [] => some 0
  | c :: cs => if c = 'e' ∨ c = 'E' then readSigned? cs else none

/-- Read an unsigned decimal. The point may stand first or last but not alone. -/
def readDecimal? (cs : List Char) : Option Decimal :=
  let whole := cs.takeWhile Char.isDigit
  let rest := cs.dropWhile Char.isDigit
  let (places, rest) :=
    match rest with
    | '.' :: more => (more.takeWhile Char.isDigit, more.dropWhile Char.isDigit)
    | _ => ([], rest)
  if whole = [] ∧ places = [] then none
  else (readExponent? rest).map fun e => ⟨ofDigits (whole ++ places), e - places.length⟩

/-- Read the word of a number that no decimal stands for. -/
def readWord? (cs : List Char) : Option Nat :=
  let word := String.ofList (cs.map Char.toLower)
  if word = "inf" ∨ word = "infinity" then some Magnitude.infinity
  else if word = "nan" then some Magnitude.notANumber
  else none

/-- Read a floating-point number. Beyond the largest one it is infinite. -/
def readFloat? (literal : String) : Option Binary64 :=
  let (negative, cs) := splitSign literal.toList
  let decimal? := (readDecimal? cs).map fun d => min d.magnitude Magnitude.infinity
  (readWord? cs <|> decimal?).map (Binary64.ofMagnitude negative)

/-- Write a floating-point number with the given writer for its finite magnitudes. -/
def floatTextWith (finite : Nat → List Char) (x : Binary64) : String :=
  if x.isNaN then "NaN"
  else
    let n := x.magnitude
    let text := if Magnitude.infinity ≤ n then ['i', 'n', 'f'] else finite n
    String.ofList (if x.isNegative then '-' :: text else text)

/-- The shortest text of a floating-point number, without an exponent. Of two equally near
decimals the upper one is written. -/
def floatText (x : Binary64) : String :=
  floatTextWith (fun n => (Decimal.ofMagnitude .upward n).positional) x

/-! ### Truth values -/

/-- Read a truth value. -/
def readBool? : String → Option Bool
  | "true" => some true
  | "false" => some false
  | _ => none

/-- The text of a truth value. -/
def boolText (b : Bool) : String :=
  if b then "true" else "false"

end Literal

end Axial
