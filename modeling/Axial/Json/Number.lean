import Axial.Json.Basic
import Axial.Data.Value

/-!
# Numbers of documents

* `Json.Number` : the parts of a literal.
* `Json.Number.int?` : the whole number of a literal without a fraction and an exponent.
* `Json.Number.float?` : the floating-point number of a literal. The leading digits that fit a
  word of 64 bits are scaled by a power of ten, in floating-point arithmetic; for up to 19 digits
  and small exponents that is the nearest number.
* `Json.ofFloat`, `Json.ofInt` : the literals that numbers are written as.
-/

namespace Axial

namespace Json

/-- The parts of a number. -/
structure Number where
  negative : Bool
  whole : List Char
  fraction : List Char
  /-- The exponent with its sign, if there is one. -/
  exponent : Option (List Char)

namespace Number

/-- The parts of a literal. -/
def ofLiteral (literal : List Char) : Number :=
  let (negative, cs) := Literal.splitSign literal
  let rest := cs.dropWhile Char.isDigit
  let places := if rest.head? = some '.' then rest.tail else []
  let afterPlaces := if rest.head? = some '.' then places.dropWhile Char.isDigit else rest
  { negative
    whole := cs.takeWhile Char.isDigit
    fraction := places.takeWhile Char.isDigit
    exponent := if afterPlaces = [] then none else some afterPlaces.tail }

variable (number : Number)

/-! ### Whole numbers -/

/-- The whole number of 64 bits that is written without a fraction and an exponent. A negative
zero is none. -/
def int? : Option Int64 :=
  if number.fraction = [] ∧ number.exponent = none then
    let n := Literal.ofDigits number.whole
    if number.negative then if n = 0 then none else Literal.toWord? (-n) else Literal.toWord? n
  else none

/-! ### Floating-point numbers -/

/-- The largest word of 64 bits. -/
def maxWord : Nat := 2 ^ 64 - 1

/-- Append digits to a number as long as it stays a word, and return the digits left over. -/
def absorb (n : Nat) : List Char → Nat × List Char
  | [] => (n, [])
  | d :: ds =>
    let next := 10 * n + (d.toNat - '0'.toNat)
    if next ≤ maxWord then absorb next ds else (n, d :: ds)

/-- The power of ten nearest to `10 ^ n`. -/
def powerOfTen (n : Nat) : Binary64 :=
  .ofMagnitude false (Decimal.mk 1 n).magnitude

/-- Scale a number by a power of ten, in steps of `10 ^ 308` for small powers. There is no result
beyond the largest number. -/
def scale? (x : Binary64) (exponent : Int) : Option Binary64 :=
  if exponent.natAbs ≤ 308 then
    if 0 ≤ exponent then
      let y := x * powerOfTen exponent.natAbs
      if y.isFinite then some y else none
    else some (x / powerOfTen exponent.natAbs)
  else if x.magnitude = 0 then some x
  else if 0 ≤ exponent then none
  else scale? (x / powerOfTen 308) (exponent + 308)
termination_by exponent.natAbs
decreasing_by omega

/-- The largest exponent that is taken into account. -/
def maxExponent : Nat := 2 ^ 31 - 1

/-- The magnitude of a number from its leading digits and their exponent. -/
def unsigned? : Option Binary64 :=
  let (n, uncounted) := absorb 0 number.whole
  let (n, dropped) := absorb n number.fraction
  let places : Int := uncounted.length - (number.fraction.length - dropped.length : Nat)
  match number.exponent with
  | none => scale? (Binary64.ofNat n) places
  | some cs =>
    let (negative, digits) := Literal.splitSign cs
    let e := Literal.ofDigits digits
    if maxExponent < e then if n = 0 ∨ negative then some (.ofNat 0) else none
    else scale? (Binary64.ofNat n) (if negative then places - e else places + e)

/-- The floating-point number of a literal. -/
def float? : Option Binary64 :=
  number.unsigned?.map fun x => if number.negative then x.negate else x

end Number

/-! ### Writing -/

/-- A whole number. -/
def ofInt (n : Int64) : Json :=
  .number (Literal.intText n).toList

/-- A floating-point number, with the fewest digits that read back. What is not finite is null. -/
def ofFloat (x : Binary64) : Json :=
  if x.isFinite then
    .number (Literal.floatTextWith (fun n => (Decimal.ofMagnitude .toEven n).pointed) x).toList
  else .null

end Json

end Axial
