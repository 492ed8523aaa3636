import Axial.Decimal.Magnitude

/-!
# Decimals

A non-negative decimal number: digits times a power of ten.

* `Decimal.magnitude` : the nearest binary64 magnitude.
* `Decimal.ofMagnitude` : the shortest decimal that reads back as a magnitude.
* `Decimal.positional`, `Decimal.pointed`, `Decimal.scientific` : the written forms.
-/

namespace Axial

/-- The number `digits * 10 ^ exponent`. -/
structure Decimal where
  digits : Nat
  exponent : Int
deriving DecidableEq, Repr

/-- Which of two shortest decimals is written when both are equally near. -/
inductive TieRule where
  | toEven
  | upward
deriving DecidableEq, Repr

namespace Decimal

/-! ### Rounding to a magnitude -/

/-- The number of digits of a positive natural number; zero has none. -/
def length (n : Nat) : Nat :=
  if n = 0 then 0 else length (n / 10) + 1

/-- The magnitude nearest to a decimal. Exponents beyond both ends of the format are decided
without computing the power of ten. -/
def magnitude (d : Decimal) : Nat :=
  if d.digits = 0 then 0
  else if 310 < d.exponent then Magnitude.infinity
  else if d.exponent < -(330 + length d.digits : Int) then 0
  else
    Magnitude.nearest (d.digits * 10 ^ d.exponent.toNat * 2 ^ 1074) (10 ^ (-d.exponent).toNat)

/-! ### The shortest decimal of a magnitude -/

/-- Drop the zeros at the end of the digits. -/
def strip (d : Decimal) : Decimal :=
  if h : d.digits ≠ 0 ∧ d.digits % 10 = 0 then strip ⟨d.digits / 10, d.exponent + 1⟩ else d
termination_by d.digits
decreasing_by omega

/-- The exact decimal of a magnitude. -/
def exact (n : Nat) : Decimal :=
  ⟨Magnitude.units n * 5 ^ 1074, -1074⟩

/-- The number of digits of a magnitude before its decimal point; negative for leading zeros
after the point. -/
def integerDigits (n : Nat) : Int :=
  (length (Magnitude.units n * 10 ^ 400 / 2 ^ 1074) : Int) - 400

/-- The neighbour of a magnitude, among the multiples of `10 ^ exponent`, that reads back as the
magnitude. Of two such neighbours the nearer is taken. -/
def onGrid? (tie : TieRule) (n : Nat) (exponent : Int) : Option Decimal :=
  let num := Magnitude.units n * 10 ^ (-exponent).toNat
  let den := 2 ^ 1074 * 10 ^ exponent.toNat
  let below : Decimal := ⟨num / den, exponent⟩
  let above : Decimal := ⟨num / den + 1, exponent⟩
  if below.magnitude = n then
    if above.magnitude = n then
      match compare (2 * (num % den)) den with
      | .lt => some below
      | .gt => some above
      | .eq => if tie = .upward ∨ below.digits % 2 = 1 then some above else some below
    else some below
  else if above.magnitude = n then some above
  else none

/-- The decimal with the fewest digits that reads back as a magnitude. Grids of up to seventeen
digits are tried from the coarsest on. -/
def ofMagnitude (tie : TieRule) (n : Nat) : Decimal :=
  if n = 0 then ⟨0, 0⟩
  else
    let places := integerDigits n
    let grids := (List.range 17).map fun k => places - (k + 1 : Nat)
    strip ((grids.findSome? (onGrid? tie n)).getD (exact n))

/-! ### Written forms -/

/-- The digits of a natural number in base ten. -/
def digitChars (n : Nat) : List Char :=
  Nat.toDigits 10 n

/-- Digits with the decimal point after the first `places` of them, zeros filling either side.
`fraction` is what follows a number without decimals. -/
def placePoint (digits : List Char) (places : Int) (fraction : List Char) : List Char :=
  if places ≤ 0 then '0' :: '.' :: (List.replicate (-places).toNat '0' ++ digits)
  else if digits.length ≤ places.toNat then
    digits ++ List.replicate (places.toNat - digits.length) '0' ++ fraction
  else digits.take places.toNat ++ '.' :: digits.drop places.toNat

/-- A decimal without an exponent, and without a fraction if it has none. -/
def positional (d : Decimal) : List Char :=
  if d.digits = 0 then ['0']
  else
    let digits := digitChars d.digits
    placePoint digits (digits.length + d.exponent) []

/-- A decimal with one digit before the point and a signed exponent. -/
def scientific (d : Decimal) : List Char :=
  let digits := digitChars d.digits
  let exponent := (digits.length : Int) + d.exponent - 1
  let fraction := if digits.length ≤ 1 then [] else '.' :: digits.drop 1
  digits.take 1 ++ fraction ++ 'e' :: (if exponent < 0 then '-' else '+') ::
    digitChars exponent.natAbs

/-- A decimal with at least one decimal place; from `10 ^ 16` on and below `10 ^ -5` it is written
with an exponent. -/
def pointed (d : Decimal) : List Char :=
  if d.digits = 0 then ['0', '.', '0']
  else
    let digits := digitChars d.digits
    let places := (digits.length : Int) + d.exponent
    if -5 < places ∧ places ≤ 16 then placePoint digits places ['.', '0'] else d.scientific

end Decimal

end Axial
