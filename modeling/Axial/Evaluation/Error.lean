import Axial.Query.Canonical
import Axial.Data.Value
import Axial.Store.Basic

/-!
# Why a query has no answer

* `EvalCause` : what is missing from a store, or does not fit the query.
* `EvalError.message` : the wording. It names the store, except where the store has no part in the
  failure.
* `Store.require` : a value that has to be there.
-/

namespace Axial

/-- Why a query cannot be answered. -/
inductive EvalCause where
  | missingAxis (axis : String)
  | missingScalar (name : String)
  | missingVector (name axis : String)
  | missingMatrix (name rows columns : String)
  | missingEntryValue (lookup : ScalarLookup)
  | missingEntry (entry axis : String)
  /-- A filter is no truth value. -/
  | notBoolFilter (lookup : AxisLookup) (axis : String) (type : ElementType)
  /-- A negated property is no truth value. -/
  | notBoolInverted (property : PropertyChain) (axis : String) (type : ElementType)
  /-- A property that is followed to another axis holds no names. -/
  | notStringChained (property axis : String) (type : ElementType)
  /-- A property that is matched with a regular expression holds no text. -/
  | notStringMatched (property : PropertyChain) (axis : String) (type : ElementType)
      (comparison : Comparison)
  | invalidPattern (literal : String) (property : PropertyChain) (axis : String)
  /-- A literal is no value of the type that it is compared to. -/
  | invalidLiteral (type : ElementType) (literal : String) (property : PropertyChain)
      (axis : String)
  | notNumeric (type : ElementType) (operation : String)
  /-- A value is no entry of the axis that it is followed to. -/
  | danglingValue (value property axis target : String)
  | unknownOperation (kind : OperationKind) (operation : String)
  /-- The values do not reach as far as the entries of their axis. -/
  | outOfRange
deriving DecidableEq

/-- A store and why a query about it cannot be answered. -/
structure EvalError where
  store : String
  cause : EvalCause
deriving DecidableEq

/-- The wording of a cause, without the store. -/
def EvalCause.text : EvalCause → String
  | missingAxis axis => "missing axis: " ++ axis
  | missingScalar name => "missing scalar: " ++ name
  | missingVector name axis => "missing vector: " ++ name ++ "\nof the axis: " ++ axis
  | missingMatrix name rows columns =>
    "missing matrix: " ++ name ++ "\nfor the rows axis: " ++ rows ++ "\nand the columns axis: "
      ++ columns
  | missingEntryValue lookup => "missing entry value of: " ++ Token.line lookup.tokens
  | missingEntry entry axis => "missing entry: " ++ entry ++ "\nof the axis: " ++ axis
  | notBoolFilter lookup axis type =>
    "non-Bool filter: " ++ Token.line lookup.tokens ++ "\nof the axis: " ++ axis
      ++ "\nhas type: " ++ type.label
  | notBoolInverted property axis type =>
    "non-Bool inverted property: " ++ Token.line property.tokens ++ "\nof the axis: " ++ axis
      ++ "\nhas type: " ++ type.label
  | notStringChained property axis type =>
    "non-String chained property: " ++ property ++ "\nof the axis: " ++ axis
      ++ "\nhas type: " ++ type.label
  | notStringMatched property axis type comparison =>
    "non-String property: " ++ Token.line property.tokens ++ "\nof the axis: " ++ axis
      ++ "\nhas type: " ++ type.label ++ "\nfor the match operator: "
      ++ (Operator.compare comparison).symbol
  | invalidPattern literal property axis =>
    "invalid regular expression: " ++ literal ++ "\nfor the property: "
      ++ Token.line property.tokens ++ "\nof the axis: " ++ axis
  | invalidLiteral type literal property axis =>
    "invalid " ++ type.label ++ " value: " ++ literal ++ "\nfor the property: "
      ++ Token.line property.tokens ++ "\nof the axis: " ++ axis
  | notNumeric type operation =>
    "non-numeric input: " ++ type.label ++ "\nfor the operation: " ++ operation
  | danglingValue value property axis target =>
    "invalid value: " ++ value ++ "\nof the chained property: " ++ property ++ "\nof the axis: "
      ++ axis ++ "\nis missing from the fetched axis: " ++ target
  | unknownOperation kind operation => "unknown " ++ kind.label ++ " operation: " ++ operation
  | outOfRange => "values out of range"

/-- The wording of an evaluation error. -/
def EvalError.message (error : EvalError) : String :=
  match error.cause with
  | .unknownOperation .. => error.cause.text
  | _ => error.cause.text ++ "\nin the data: " ++ error.store

namespace Store

/-- A query about this store cannot be answered. -/
def refuse {α : Type} (store : Store) (cause : EvalCause) : Except EvalError α :=
  .error ⟨store.name, cause⟩

/-- A value that has to be there for a query to be answered. -/
def require {α : Type} (store : Store) (cause : EvalCause) : Option α → Except EvalError α
  | some a => .ok a
  | none => store.refuse cause

end Store

end Axial
