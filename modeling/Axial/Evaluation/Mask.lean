import Axial.Evaluation.Property

/-!
# Filtered axes

The filters of an axis are combined from left to right, starting from a mask that keeps all
entries.

* `FilteredAxis.mask` : which entries the filters keep.
* `FilteredAxis.indices` : the places of the kept entries, or nothing if the filters keep none.
-/

namespace Axial

/-- The truth values of a filter for the entries of an axis. -/
def AxisFilter.bits (filter : AxisFilter) (store : Store) (axis : String) :
    Except EvalError (List Bool) := do
  let values ← filter.lookup.values store axis
  let .bool bits := values
    | store.refuse (.notBoolFilter filter.lookup axis values.type)
  return bits

namespace FilteredAxis

/-- Which entries of the axis the filters keep. -/
def mask (axis : FilteredAxis) (store : Store) : Except EvalError (List Bool) := do
  let entries ← store.requireEntries axis.axis
  axis.filters.foldlM (fun mask filter => do
    let bits ← filter.bits store axis.axis
    return List.zipWith filter.combinator.combine mask bits) (entries.map fun _ => true)

/-- The places of the entries that are kept. An axis without filters keeps all, and may be empty;
if there are filters and they keep no entry, there is no answer. -/
def indices (axis : FilteredAxis) (store : Store) : Except EvalError (Option (List Nat)) := do
  let mask ← axis.mask store
  return if axis.filters ≠ [] ∧ true ∉ mask then none else some (keptIndices mask)

end FilteredAxis

end Axial
