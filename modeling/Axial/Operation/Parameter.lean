import Axial.Decimal.Literal

/-!
# Parameters of operations

An operation takes named parameters, each of a type that says which literals it accepts.

* `ParameterType.parse?` : the value of a literal. No value tells what is not a number from
  another one: the texts of these are the same.
* `ParameterValue.text` : the literal of a value.
* `Parameters` : the values of one invocation, in the order of the operation's schema.
-/

namespace Axial

/-- Whether an operation keeps the shape of its input or reduces it. -/
inductive OperationKind where
  | eltwise
  | reduction
deriving DecidableEq, Repr

/-- The word for a kind of operation in messages. -/
def OperationKind.label : OperationKind → String
  | .eltwise => "eltwise"
  | .reduction => "reduction"

/-! ### Values -/

/-- The value of a parameter. -/
inductive ParameterValue where
  | float (x : Binary64)
  | integer (n : Int64)
  /-- The base of the natural logarithm. -/
  | e
  /-- No value of its own: the operation decides. -/
  | auto
deriving DecidableEq

namespace ParameterValue

/-- The base of the natural logarithm. -/
def eulerNumber : Binary64 := ⟨0x4005BF0A8B145769⟩

/-- The number that a value stands for. -/
def toFloat? : ParameterValue → Option Binary64
  | float x => some x
  | integer n => some (Binary64.ofInt n.toInt)
  | e => some eulerNumber
  | auto => none

/-- The whole number that a value stands for. -/
def toInt? : ParameterValue → Option Int64
  | integer n => some n
  | _ => none

/-- The literal of a value. -/
def text : ParameterValue → String
  | float x => Literal.floatText x
  | integer n => Literal.intText n
  | e => "e"
  | auto => "auto"

end ParameterValue

/-! ### Types -/

/-- The literals that a parameter accepts. -/
inductive ParameterType where
  | float
  | integer
  /-- A base of a logarithm: positive and not one. -/
  | logBase
  /-- A number or nothing. -/
  | optionalFloat
deriving DecidableEq, Repr

namespace ParameterType

/-- The literals of a type, in words. -/
def description : ParameterType → String
  | float => "a number"
  | integer => "an integer"
  | logBase => "e or a positive number other than 1"
  | optionalFloat => "auto or a number"

/-- Read a number as the base of a logarithm. The base of the natural logarithm has a value of
its own, also when it is written in digits. -/
def logBase? (x : Binary64) : Option ParameterValue :=
  if x.same ParameterValue.eulerNumber then some .e
  else if (Binary64.ofNat 0).less x && !x.same (.ofNat 1) then some (.float x)
  else none

/-- Read a number. What is not one has no sign, whether its literal has one or not. -/
def number? (literal : String) : Option ParameterValue :=
  (Literal.readFloat? literal).map fun x => .float x.plain

/-- The value of a literal, if the type accepts it. -/
def parse? (type : ParameterType) (literal : String) : Option ParameterValue :=
  match type with
  | float => number? literal
  | integer => (Literal.readInt? literal).map .integer
  | logBase => if literal = "e" then some .e else (Literal.readFloat? literal).bind logBase?
  | optionalFloat =>
    if literal = "auto" then some .auto else number? literal

end ParameterType

/-! ### Invocations -/

/-- The parameter values of one invocation, by name. -/
abbrev Parameters := List (String × ParameterValue)

namespace Parameters

/-- The value of a parameter; of several with one name the first counts. -/
def get? (parameters : Parameters) (name : String) : Option ParameterValue :=
  parameters.lookup name

/-- The number that a parameter stands for. -/
def float? (parameters : Parameters) (name : String) : Option Binary64 :=
  (parameters.get? name).bind ParameterValue.toFloat?

/-- The whole number that a parameter stands for. -/
def integer? (parameters : Parameters) (name : String) : Option Int64 :=
  (parameters.get? name).bind ParameterValue.toInt?

end Parameters

end Axial
