import Axial.Operation.Registry

/-!
# Listings of operations

* `Registry.listing` : the operations of a registry and their parameters, for reading.
-/

namespace Axial

/-- A text followed by blanks up to a width. -/
def padRight (width : Nat) (text : String) : String :=
  text ++ String.ofList (List.replicate (width - text.length) ' ')

/-- The line of a parameter. -/
def ParameterSpec.line (spec : ParameterSpec) : String :=
  "    " ++ spec.name ++ " : " ++ spec.type.description ++ " = " ++ spec.default.text ++ "    "
    ++ spec.description ++ "\n"

/-- The lines of an operation. -/
def Signature.lines (signature : Signature) : String :=
  "  " ++ padRight 10 signature.name ++ " " ++ signature.description ++ "\n"
    ++ String.join (signature.parameters.map ParameterSpec.line)

/-- The lines of the operations of one kind. -/
def Registry.linesOf (registry : Registry) (title : String) (kind : OperationKind) : String :=
  title ++ "\n" ++ String.join ((registry.signatures kind).map Signature.lines)

/-- The operations of a registry and their parameters. -/
def Registry.listing (registry : Registry) : String :=
  registry.linesOf "ELEMENT-WISE OPERATIONS (%)" .eltwise ++ "\n"
    ++ registry.linesOf "REDUCTION OPERATIONS (%>)" .reduction

end Axial
