import Axial.Evaluation.Error
import Axial.Regex.Compile

/-!
# The values of a property

A property is a vector of an axis, or the names of its entries. The values of a property that is
followed further name entries of another axis, and stand for the next property of those.

* `Store.property` : the values of a single property.
* `Store.follow` : the values along the rest of a chain.
* `AxisLookup.finish` : inversion or comparison, once the chain has come to its end.
* `AxisLookup.values` : all of these for the entries of an axis.
-/

namespace Axial

/-- The property that every axis has: the names of its entries. -/
def entryNameProperty : String := "name"

namespace Store

variable (store : Store)

/-! ### Axes and entries -/

/-- The entries of an axis that has to exist. -/
def requireEntries (axis : String) : Except EvalError (List String) :=
  store.require (.missingAxis axis) (store.entries? axis)

/-- The place of an entry on its axis. -/
def entryIndex (entry : AxisEntry) : Except EvalError Nat := do
  let entries ← store.requireEntries entry.axis
  store.require (.missingEntry entry.entry entry.axis) (entries.idxOf? entry.entry)

/-- The values of a property. -/
def property (axis name : String) : Except EvalError Column := do
  let entries ← store.requireEntries axis
  if name = entryNameProperty then return .string entries
  else store.require (.missingVector name axis) (store.vector? axis name)

/-! ### Chains -/

/-- The part of a name before its first dot, if it has one. -/
def stem? (name : String) : Option String :=
  if '.' ∈ name.toList then some (String.ofList (name.toList.takeWhile (· ≠ '.'))) else none

/-- The axis that the values of a property name entries of: the axis called like the property, or
else like the part of its name before the first dot. -/
def linkedAxis? (property : String) : Option String :=
  if store.hasAxis property then some property
  else (stem? property).filter store.hasAxis

/-- The values of the last property of a chain, given the values of `property` along `axis` and
the properties after it. -/
def follow (axis property : String) (values : Column) : List String → Except EvalError Column
  | [] => .ok values
  | next :: rest => do
    let .string names := values
      | store.refuse (.notStringChained property axis values.type)
    let target ← store.require (.missingAxis property) (store.linkedAxis? property)
    let entries ← store.requireEntries target
    let indices ← names.mapM fun name =>
      store.require (.danglingValue name property axis target) (entries.idxOf? name)
    let all ← store.property target next
    let values ← store.require .outOfRange (all.select? indices)
    follow target next values rest

end Store

/-! ### Tests -/

/-- How values compare to a literal, which is read as a value of their type. -/
def Column.compareTo? (values : Column) (literal : String) : Option (List (Option Ordering)) :=
  match values with
  | .bool bs => (Literal.readBool? literal).map fun b => bs.map (some <| compare · b)
  | .int ns => (Literal.readInt? literal).map fun n => ns.map (some <| compare · n)
  | .float xs => (Literal.readFloat? literal).map fun x => xs.map (·.compare? x)
  | .string ts => some (ts.map (some <| compare · literal))

/-- The outcomes of a test on values of a property along an axis. -/
def PropertyTest.outcomes (test : PropertyTest) (store : Store) (axis : String)
    (property : PropertyChain) (values : Column) : Except EvalError (List Bool) := do
  if test.comparison.isPattern then
    let .string texts := values
      | store.refuse (.notStringMatched property axis values.type test.comparison)
    let regex ← store.require (.invalidPattern test.literal property axis)
      (Regex.compileWhole? test.literal)
    return texts.map fun text => regex.isMatch text == (test.comparison = .like)
  else
    let orderings ← store.require (.invalidLiteral values.type test.literal property axis)
      (values.compareTo? test.literal)
    return orderings.map test.comparison.holds

namespace AxisLookup

/-- Invert or test values of the property along an axis, if the lookup asks for it. -/
def finish (lookup : AxisLookup) (store : Store) (axis : String) (values : Column) :
    Except EvalError Column := do
  if lookup.inverted then
    let .bool bs := values
      | store.refuse (.notBoolInverted lookup.property axis values.type)
    return .bool (bs.map (!·))
  else
    match lookup.test with
    | none => return values
    | some test => return .bool (← test.outcomes store axis lookup.property values)

/-- The values for some entries of an axis, given those of the first property of the chain. -/
def valuesFrom (lookup : AxisLookup) (store : Store) (axis : String) (first : Column) :
    Except EvalError Column := do
  let last ← store.follow axis lookup.property.first first lookup.property.rest
  lookup.finish store axis last

/-- The values for all entries of an axis. -/
def values (lookup : AxisLookup) (store : Store) (axis : String) : Except EvalError Column := do
  lookup.valuesFrom store axis (← store.property axis lookup.property.first)

/-- The value for one entry of an axis. -/
def valueAt (lookup : AxisLookup) (store : Store) (entry : AxisEntry) : Except EvalError Value := do
  let index ← store.entryIndex entry
  let all ← store.property entry.axis lookup.property.first
  let first ← store.require .outOfRange (all.select? [index])
  let last ← lookup.valuesFrom store entry.axis first
  store.require (.missingEntryValue (.vectorEntry entry lookup)) (last.get? 0)

end AxisLookup

end Axial
