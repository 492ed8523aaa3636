import Axial.Operation.Registry

/-!
# Built-in operations

The element-wise operations `Abs`, `Clamp`, `Log` and `Round`, and the reductions `Max`, `Mean`,
`Median`, `Min`, `Std`, `Sum` and `Var`.

An invocation that lacks a parameter, or gives it a value of another type, falls back on the
parameter's default.
-/

namespace Axial

namespace Builtin

/-! ### Arithmetic -/

/-- `acc * base ^ n`, by repeated squaring. -/
def powerTimes (acc base : Binary64) (n : Nat) : Binary64 :=
  let acc := if n % 2 = 1 then acc * base else acc
  if n / 2 = 0 then acc else powerTimes acc (base * base) (n / 2)
termination_by n
decreasing_by omega

/-- A power of ten; a negative one is the inverse of the positive one. -/
def powerOfTen (n : Int) : Binary64 :=
  let power := powerTimes (.ofNat 1) (.ofNat 10) n.natAbs
  if n < 0 then .ofNat 1 / power else power

/-- The sum from left to right. The sum of nothing is a negative zero, which leaves every number
added to it unchanged. -/
def sum (xs : List Binary64) : Binary64 :=
  xs.foldl (· + ·) (Binary64.ofNat 0).negate

/-- The arithmetic mean. -/
def mean (xs : List Binary64) : Binary64 :=
  sum xs / Binary64.ofNat xs.length

/-- The population variance. -/
def variance (xs : List Binary64) : Binary64 :=
  let m := mean xs
  sum (xs.map fun x => (x - m) * (x - m)) / Binary64.ofNat xs.length

/-- The middle value in the total order, or the mean of the two middle values. -/
def median (xs : List Binary64) : Binary64 :=
  let sorted := xs.mergeSort fun a b => a.totalPlace ≤ b.totalPlace
  let middle := xs.length / 2
  let upper := sorted[middle]?.getD (.nan false)
  if xs.length % 2 = 0 then (sorted[middle - 1]?.getD (.nan false) + upper) / .ofNat 2 else upper

/-- Combine the numbers from left to right; there is no number to give for none. -/
def combineAll (f : Binary64 → Binary64 → Binary64) : List Binary64 → Binary64
  | [] => .nan false
  | x :: xs => xs.foldl f x

/-! ### Element-wise operations -/

/-- The absolute value. -/
def abs : Schema (Binary64 → Binary64) where
  name := "Abs"
  description := "Absolute value"
  parameters := []
  build _ := Binary64.abs

/-- A value raised to the lower bound and then lowered to the upper bound. -/
def clampTo (low high x : Binary64) : Binary64 :=
  (x.larger low).smaller high

/-- Limits values to a range. -/
def clamp : Schema (Binary64 → Binary64) where
  name := "Clamp"
  description := "Limit values to a range"
  parameters :=
    [⟨"min", .optionalFloat, .auto, "Lowest value, auto for none"⟩,
     ⟨"max", .optionalFloat, .auto, "Highest value, auto for none"⟩]
  build parameters :=
    clampTo ((parameters.float? "min").getD (.infinity true))
      ((parameters.float? "max").getD (.infinity false))

/-- The logarithm of a value plus a small constant. -/
def log : Schema (Binary64 → Binary64) where
  name := "Log"
  description := "Logarithm of the value plus eps"
  parameters :=
    [⟨"base", .logBase, .e, "Logarithm base"⟩,
     ⟨"eps", .float, .float (.ofNat 0), "Added before the log"⟩]
  build parameters :=
    let base := (parameters.float? "base").getD ParameterValue.eulerNumber
    let eps := (parameters.float? "eps").getD (.ofNat 0)
    fun x => (x + eps).log / base.log

/-- Rounds to a number of decimal digits, halves away from zero. -/
def round : Schema (Binary64 → Binary64) where
  name := "Round"
  description := "Round to a number of decimal digits"
  parameters := [⟨"digits", .integer, .integer 0, "Decimal digits to keep"⟩]
  build parameters :=
    let digits := ((parameters.integer? "digits").getD 0).toInt
    let scale := powerOfTen (max (-308) (min digits 308))
    fun x => (x * scale).round / scale

/-! ### Reductions -/

/-- A reduction without parameters. -/
def plainReduction (name description : String) (f : List Binary64 → Binary64) :
    Schema (List Binary64 → Binary64) where
  name := name
  description := description
  parameters := []
  build _ := f

/-- The built-in reductions. -/
def reductions : List (Schema (List Binary64 → Binary64)) :=
  [plainReduction "Max" "Largest value" (combineAll .larger),
   plainReduction "Mean" "Arithmetic mean" mean,
   plainReduction "Median" "Middle value" median,
   plainReduction "Min" "Smallest value" (combineAll .smaller),
   plainReduction "Std" "Population standard deviation" fun xs => (variance xs).sqrt,
   plainReduction "Sum" "Sum of the values" sum,
   plainReduction "Var" "Population variance" variance]

end Builtin

/-- The registry of the built-in operations. -/
def Registry.builtin : Registry where
  eltwise := [Builtin.abs, Builtin.clamp, Builtin.log, Builtin.round]
  reductions := Builtin.reductions

end Axial
