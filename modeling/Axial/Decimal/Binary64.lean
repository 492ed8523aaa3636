import Axial.Decimal.Magnitude

/-!
# Numbers of the binary64 format

A number is kept by its bits, which are a sign and a magnitude. What is not a number has a sign,
too, which tells whether it comes before or after all numbers in the total order.

* `Binary64.plain` : a number as a text tells it.
* `Binary64.compare?` : comparison by value.
* `Binary64.totalPlace` : the place in the total order, in which no two numbers are equal.
* `Binary64.apply`, `Binary64.apply₂` : operations on numbers. What is not a number is passed on,
  and an operation without a result gives the negative one.
-/

namespace Axial

/-- A number of the binary64 format. -/
structure Binary64 where
  bits : UInt64
deriving DecidableEq

namespace Binary64

/-! ### Sign and magnitude -/

/-- The number of a sign and a magnitude. -/
def ofMagnitude (negative : Bool) (n : Nat) : Binary64 :=
  ⟨UInt64.ofNat (n + if negative then 2 ^ 63 else 0)⟩

/-- The infinity of a sign. -/
def infinity (negative : Bool) : Binary64 :=
  ofMagnitude negative Magnitude.infinity

/-- What is not a number, with a sign. -/
def nan (negative : Bool) : Binary64 :=
  ofMagnitude negative Magnitude.notANumber

variable (x y : Binary64)

/-- The magnitude of a number. -/
def magnitude : Nat :=
  x.bits.toNat % 2 ^ 63

/-- Whether the sign of a number is a minus. -/
def isNegative : Bool :=
  decide (2 ^ 63 ≤ x.bits.toNat)

/-- Whether it is not a number. -/
def isNaN : Bool :=
  Magnitude.infinity < x.magnitude

/-- Whether it is a number and not infinite. -/
def isFinite : Bool :=
  x.magnitude < Magnitude.infinity

/-- The number with the other sign. -/
def negate : Binary64 :=
  ofMagnitude (!x.isNegative) x.magnitude

/-- The number without its sign. -/
def abs : Binary64 :=
  ofMagnitude false x.magnitude

/-- The number as a text tells it: in a text, what is not a number has no sign. -/
def plain : Binary64 :=
  if x.isNaN then nan false else x

/-- The number nearest to a natural number. -/
def ofNat (n : Nat) : Binary64 :=
  ofMagnitude false (min Magnitude.infinity (Magnitude.nearest (n * 2 ^ 1074) 1))

/-- The number nearest to a whole number. -/
def ofInt (n : Int) : Binary64 :=
  if n < 0 then (ofNat n.natAbs).negate else ofNat n.natAbs

/-! ### Order -/

/-- The place of a number by its value. Both zeros have the same one. -/
def place : Int :=
  if x.isNegative then -x.magnitude else x.magnitude

/-- How two numbers compare by value, if both are numbers. -/
def compare? : Option Ordering :=
  if x.isNaN || y.isNaN then none else some (compare x.place y.place)

/-- Whether a number is smaller than another one. -/
def less : Bool :=
  x.compare? y = some .lt

/-- Whether two numbers have the same value. -/
def same : Bool :=
  x.compare? y = some .eq

/-- The place in the total order, in which negative zero comes before zero. -/
def totalPlace : Int :=
  if x.isNegative then -x.magnitude - 1 else x.magnitude

/-- The larger of two numbers, and the other one if one of them is not a number. The first one is
kept if the two are equal, or both are not numbers. -/
def larger : Binary64 :=
  if x.isNaN && !y.isNaN || x.less y then y else x

/-- The smaller of two numbers, and the other one if one of them is not a number. The first one is
kept if the two are equal, or both are not numbers. -/
def smaller : Binary64 :=
  if x.isNaN && !y.isNaN || y.less x then y else x

/-! ### Arithmetic -/

/-- The floating-point number of the same bits. -/
def toFloat : Float :=
  Float.ofBits x.bits

/-- The result of an operation. -/
def ofResult (result : Float) : Binary64 :=
  if result.isNaN then nan true else ⟨result.toBits⟩

/-- Apply an operation on one number. -/
def apply (operation : Float → Float) : Binary64 :=
  if x.isNaN then x else ofResult (operation x.toFloat)

/-- Apply an operation on two numbers. -/
def apply₂ (operation : Float → Float → Float) : Binary64 :=
  if x.isNaN then x else if y.isNaN then y else ofResult (operation x.toFloat y.toFloat)

instance : Add Binary64 := ⟨fun x y => x.apply₂ y (· + ·)⟩

instance : Sub Binary64 := ⟨fun x y => x.apply₂ y (· - ·)⟩

instance : Mul Binary64 := ⟨fun x y => x.apply₂ y (· * ·)⟩

instance : Div Binary64 := ⟨fun x y => x.apply₂ y (· / ·)⟩

/-- The square root. -/
def sqrt : Binary64 :=
  x.apply Float.sqrt

/-- The natural logarithm. -/
def log : Binary64 :=
  x.apply Float.log

/-- The nearest whole number; halves go away from zero. -/
def round : Binary64 :=
  x.apply Float.round

end Binary64

end Axial
