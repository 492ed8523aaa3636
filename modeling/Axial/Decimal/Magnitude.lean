/-!
# Magnitudes of binary64 numbers

The non-negative finite numbers of the binary64 format, in increasing order, are numbered by
their own bit patterns. Each is a whole number of units of `2 ^ -1074`, so rounding and comparing
them needs natural numbers only.

* `units n` : the value of the `n`-th magnitude in units.
* `floorIndex u` : the largest magnitude of at most `u` units.
* `nearest a b` : the magnitude nearest to `a / b` units, a tie going to the even pattern.
-/

namespace Axial

-- powers are those of the core library, whatever else a module imports
attribute [instance (2000), default_instance 20000] instPowNat

namespace Magnitude

/-- The pattern after the largest finite magnitude, which stands for infinity. -/
def infinity : Nat := 2047 * 2 ^ 52

/-- The pattern of the number that is not a number. -/
def notANumber : Nat := 2047 * 2 ^ 52 + 2 ^ 51

/-- The value of the `n`-th magnitude, in units of `2 ^ -1074`. -/
def units (n : Nat) : Nat :=
  if n < 2 ^ 52 then n else (2 ^ 52 + n % 2 ^ 52) * 2 ^ (n / 2 ^ 52 - 1)

/-- The largest magnitude whose value is at most `u` units. -/
def floorIndex (u : Nat) : Nat :=
  if u < 2 ^ 53 then u
  else
    let shift := u.log2 - 52
    shift * 2 ^ 52 + u / 2 ^ shift

/-- The magnitude whose value is nearest to `num / den` units. Patterns alternate between even
and odd significands, so a tie goes to the even pattern. -/
def nearest (num den : Nat) : Nat :=
  let n := floorIndex (num / den)
  match compare (2 * num) ((units n + units (n + 1)) * den) with
  | .lt => n
  | .gt => n + 1
  | .eq => n + n % 2

end Magnitude

end Axial
