import Axial.Decimal.Literal

/-!
# Values

A store holds truth values, whole numbers of 64 bits, floating-point numbers and strings.

* `ElementType` : the four types of values.
* `Value.text` : a value in words.
* `Value.toFloat?` : the number that a numeric value stands for.
-/

namespace Axial

/-- The type of a value. -/
inductive ElementType where
  | bool
  | int
  | float
  | string
deriving DecidableEq, Repr

namespace ElementType

/-- The name of a type. -/
def label : ElementType → String
  | bool => "Bool"
  | int => "Int64"
  | float => "Float64"
  | string => "String"

/-- Whether operations can be applied to values of the type. -/
def isNumeric : ElementType → Bool
  | int | float => true
  | bool | string => false

end ElementType

/-- A single value. -/
inductive Value where
  | bool (value : Bool)
  | int (value : Int64)
  | float (value : Binary64)
  | string (value : String)
deriving DecidableEq

namespace Value

/-- The type of a value. -/
def type : Value → ElementType
  | bool _ => .bool
  | int _ => .int
  | float _ => .float
  | string _ => .string

/-- The number that a value stands for; a whole number is rounded to the nearest one. -/
def toFloat? : Value → Option Binary64
  | int n => some (Binary64.ofInt n.toInt)
  | float x => some x
  | bool _ | string _ => none

/-- The string that a value holds. -/
def toString? : Value → Option String
  | string s => some s
  | bool _ | int _ | float _ => none

/-- A value in words. -/
def text : Value → String
  | bool b => Literal.boolText b
  | int n => Literal.intText n
  | float x => Literal.floatText x
  | string s => s

end Value

end Axial
