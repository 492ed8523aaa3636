import Axial.Operation.Parameter

/-!
# Registries of operations

A registry says which operations there are, which parameters they take, and what they compute.
Queries are parsed and evaluated against a registry, each possibly against a different one.

* `Signature` : the name, the parameters and the description of an operation.
* `Schema` : a signature with the function that an invocation stands for.
* `Registry.signature?`, `Registry.eltwise?`, `Registry.reduction?` : look-up by name.
-/

namespace Axial

/-- A parameter that an operation takes. -/
structure ParameterSpec where
  name : String
  type : ParameterType
  /-- The value of the parameter where an invocation does not give it. -/
  default : ParameterValue
  description : String
deriving DecidableEq

/-- What an invocation of an operation looks like. -/
structure Signature where
  name : String
  description : String
  parameters : List ParameterSpec
deriving DecidableEq

/-- The parameter with the given name. -/
def Signature.parameter? (signature : Signature) (name : String) : Option ParameterSpec :=
  signature.parameters.find? (·.name = name)

/-- A signature and the function of each invocation. -/
structure Schema (Function : Type) extends Signature where
  build : Parameters → Function

/-- The operations that queries may name, each kind in the order of its names. -/
structure Registry where
  eltwise : List (Schema (Binary64 → Binary64))
  reductions : List (Schema (List Binary64 → Binary64))

namespace Registry

/-- The registry without operations. -/
def empty : Registry := ⟨[], []⟩

/-- The element-wise function of an invocation. -/
def eltwise? (registry : Registry) (name : String) (parameters : Parameters) :
    Option (Binary64 → Binary64) :=
  (registry.eltwise.find? (·.name = name)).map (·.build parameters)

/-- The reduction of an invocation. -/
def reduction? (registry : Registry) (name : String) (parameters : Parameters) :
    Option (List Binary64 → Binary64) :=
  (registry.reductions.find? (·.name = name)).map (·.build parameters)

/-- The signatures of one kind. -/
def signatures (registry : Registry) : OperationKind → List Signature
  | .eltwise => registry.eltwise.map (·.toSignature)
  | .reduction => registry.reductions.map (·.toSignature)

/-- The signature of an operation. -/
def signature? (registry : Registry) (kind : OperationKind) (name : String) : Option Signature :=
  (registry.signatures kind).find? (·.name = name)

end Registry

end Axial
