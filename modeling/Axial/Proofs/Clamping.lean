import Axial.Proofs.RoundTrip
import Axial.Proofs.StoreHistory

/-!
# Limits of a range

`Clamp` raises a value to a lower bound and then lowers it to an upper bound. Either bound can be
left open, and the infinity of its side stands in for it then. For numbers this is all that it does:
the infinities limit nothing. What is not a number does not pass, though: the larger of it and a
bound is the bound, also where the bound is the infinity that stands in for none.

* `Binary64.less_iff`, `Binary64.larger_eq`, `Binary64.smaller_eq` : the order of numbers.
* `Builtin.Bounds` : a lower and an upper bound, each given or left open.
* `Builtin.Bounds.Limits` : what becomes of a value under some bounds, said without the operation.
* `Builtin.Bounds.IsRange.clampTo_eq`, `Builtin.Bounds.IsRange.clampTo_of_isNaN` : what the
  operation computes.
* `Invocation.WellFormed.exists_bounds` : the bounds of an accepted operation.
* `Builtin.clamp_limits_iff` : the operation limits numbers and nothing else.
* `Query.eval_clamp_nan` : what is not a number is limited where both bounds are open.
-/

namespace Axial

/-! ### The order of numbers -/

namespace Binary64

variable {x y z : Binary64}

/-- Only numbers are smaller or larger than others, and they are ordered by their places. -/
theorem less_iff : x.less y = true ↔ x.isNaN = false ∧ y.isNaN = false ∧ x.place < y.place := by
  cases hx : x.isNaN <;> cases hy : y.isNaN <;> simp [less, compare?, hx, hy, compare_lt_iff_lt]

theorem less_trans (hxy : x.less y = true) (hyz : y.less z = true) : x.less z = true := by
  obtain ⟨hx, -, hxy⟩ := less_iff.1 hxy
  obtain ⟨-, hz, hyz⟩ := less_iff.1 hyz
  exact less_iff.2 ⟨hx, hz, hxy.trans hyz⟩

/-- All numbers are placed between the infinities. -/
theorem place_bounds (h : x.isNaN = false) :
    -Magnitude.infinity ≤ x.place ∧ x.place ≤ Magnitude.infinity := by
  have hmagnitude : x.magnitude ≤ Magnitude.infinity := by simpa [isNaN] using h
  unfold place
  split <;> omega

/-- No number is smaller than the negative infinity. -/
theorem less_negative_infinity : x.less (infinity true) = false := by
  rw [← Bool.not_eq_true, less_iff]
  rintro ⟨hnumber, -, hless⟩
  have hplace : (infinity true).place = -Magnitude.infinity := by decide
  have hbounds := place_bounds hnumber
  omega

/-- No number is larger than the positive infinity. -/
theorem positive_infinity_less : (infinity false).less x = false := by
  rw [← Bool.not_eq_true, less_iff]
  rintro ⟨-, hnumber, hless⟩
  have hplace : (infinity false).place = Magnitude.infinity := by decide
  have hbounds := place_bounds hnumber
  omega

theorem isNaN_infinity (negative : Bool) : (infinity negative).isNaN = false := by
  cases negative <;> decide

theorem larger_of_isNaN (hx : x.isNaN = true) (hy : y.isNaN = false) : x.larger y = y := by
  rw [larger, hx, hy]
  rfl

theorem larger_eq (h : x.isNaN = false) : x.larger y = if x.less y then y else x := by
  rw [larger, h]
  rfl

theorem smaller_eq (h : x.isNaN = false) : x.smaller y = if y.less x then y else x := by
  rw [smaller, h]
  rfl

end Binary64

/-! ### Bounds -/

namespace Builtin

/-- A lower and an upper bound, each of them given or left open. -/
structure Bounds where
  low : Option Binary64
  high : Option Binary64

/-- The value of a parameter that gives a bound. -/
def boundValue (bound : Option Binary64) : ParameterValue :=
  bound.elim .auto .float

namespace Bounds

variable (bounds : Bounds)

/-- The parameters of a `Clamp` with these bounds. -/
def parameters : Parameters :=
  [("min", boundValue bounds.low), ("max", boundValue bounds.high)]

/-- The bounds that are given are numbers, and the lower one is not larger than the upper one. -/
structure IsRange : Prop where
  low_isNumber : ∀ a ∈ bounds.low, a.isNaN = false
  high_isNumber : ∀ b ∈ bounds.high, b.isNaN = false
  ordered : ∀ a ∈ bounds.low, ∀ b ∈ bounds.high, b.less a = false

/-- What becomes of a value. A number within the bounds stays the same, one that violates a bound
becomes this bound, and what is not a number stays none. A bound that is left open is not violated
by any value. -/
inductive Limits : Binary64 → Binary64 → Prop where
  | within {x : Binary64} (hx : x.isNaN = false) (hlow : ∀ a ∈ bounds.low, x.less a = false)
    (hhigh : ∀ b ∈ bounds.high, b.less x = false) : Limits x x
  | raised {x a : Binary64} (ha : a ∈ bounds.low) (hless : x.less a = true) : Limits x a
  | lowered {x b : Binary64} (hb : b ∈ bounds.high) (hless : b.less x = true) : Limits x b
  | nan {x y : Binary64} (hx : x.isNaN = true) (hy : y.isNaN = true) : Limits x y

/-- The lower bound, or the infinity that stands in for it. -/
def lower : Binary64 :=
  bounds.low.getD (.infinity true)

/-- The upper bound, or the infinity that stands in for it. -/
def upper : Binary64 :=
  bounds.high.getD (.infinity false)

/-- The function of a `Clamp` with these bounds. -/
theorem eltwise?_clamp :
    Registry.builtin.eltwise? "Clamp" bounds.parameters =
      some (clampTo bounds.lower bounds.upper) := by
  obtain ⟨low, high⟩ := bounds
  cases low <;> cases high <;> rfl

variable {bounds} {x y : Binary64}

/-- The infinity that stands in for a lower bound is not violated. -/
theorem less_lower_iff : x.less bounds.lower = true ↔ ∃ a ∈ bounds.low, x.less a = true := by
  obtain ⟨low, high⟩ := bounds
  cases low with
  | none => simp [lower, Binary64.less_negative_infinity]
  | some a => simp [lower]

/-- The infinity that stands in for an upper bound is not violated. -/
theorem upper_less_iff : bounds.upper.less x = true ↔ ∃ b ∈ bounds.high, b.less x = true := by
  obtain ⟨low, high⟩ := bounds
  cases high with
  | none => simp [upper, Binary64.positive_infinity_less]
  | some b => simp [upper]

theorem lower_eq_of_mem {a : Binary64} (ha : a ∈ bounds.low) : bounds.lower = a := by
  rw [lower, Option.mem_def.1 ha, Option.getD_some]

theorem upper_eq_of_mem {b : Binary64} (hb : b ∈ bounds.high) : bounds.upper = b := by
  rw [upper, Option.mem_def.1 hb, Option.getD_some]

theorem IsRange.isNaN_lower (h : bounds.IsRange) : bounds.lower.isNaN = false := by
  cases hlow : bounds.low with
  | none => rw [lower, hlow, Option.getD_none, Binary64.isNaN_infinity]
  | some a =>
    rw [lower_eq_of_mem hlow]
    exact h.low_isNumber a hlow

theorem IsRange.upper_less_lower (h : bounds.IsRange) : bounds.upper.less bounds.lower = false := by
  rw [← Bool.not_eq_true, less_lower_iff]
  rintro ⟨a, ha, hless⟩
  obtain ⟨b, hb, hless⟩ := upper_less_iff.1 hless
  rw [h.ordered a ha b hb] at hless
  cases hless

/-! ### What the operation computes -/

/-- A number that is too small becomes the lower bound, one that is too large the upper bound. -/
theorem IsRange.clampTo_eq (h : bounds.IsRange) (hx : x.isNaN = false) :
    clampTo bounds.lower bounds.upper x =
      if x.less bounds.lower then bounds.lower
      else if bounds.upper.less x then bounds.upper else x := by
  rw [clampTo, Binary64.larger_eq hx]
  split
  · rw [Binary64.smaller_eq h.isNaN_lower, h.upper_less_lower]
    rfl
  · rw [Binary64.smaller_eq hx]

/-- What is not a number becomes the lower bound, or the infinity that stands in for it. -/
theorem IsRange.clampTo_of_isNaN (h : bounds.IsRange) (hx : x.isNaN = true) :
    clampTo bounds.lower bounds.upper x = bounds.lower := by
  rw [clampTo, Binary64.larger_of_isNaN hx h.isNaN_lower, Binary64.smaller_eq h.isNaN_lower,
    h.upper_less_lower]
  rfl

/-- The operation limits numbers. -/
theorem IsRange.limits_clampTo (h : bounds.IsRange) (hx : x.isNaN = false) :
    bounds.Limits x (clampTo bounds.lower bounds.upper x) := by
  rw [h.clampTo_eq hx]
  split
  · next hlow =>
    obtain ⟨a, ha, hless⟩ := less_lower_iff.1 hlow
    rw [lower_eq_of_mem ha]
    exact .raised ha hless
  · next hlow =>
    split
    · next hhigh =>
      obtain ⟨b, hb, hless⟩ := upper_less_iff.1 hhigh
      rw [upper_eq_of_mem hb]
      exact .lowered hb hless
    · next hhigh =>
      rw [less_lower_iff] at hlow
      rw [upper_less_iff] at hhigh
      exact .within hx (by simpa using hlow) (by simpa using hhigh)

/-- The limits of a range leave no choice. -/
theorem IsRange.eq_clampTo_of_limits (h : bounds.IsRange) (hx : x.isNaN = false)
    (hlimits : bounds.Limits x y) : y = clampTo bounds.lower bounds.upper x := by
  rw [h.clampTo_eq hx]
  cases hlimits with
  | within _ hlow hhigh =>
    have hnotLow : ¬ x.less bounds.lower = true := by simpa [less_lower_iff] using hlow
    have hnotHigh : ¬ bounds.upper.less x = true := by simpa [upper_less_iff] using hhigh
    rw [if_neg hnotLow, if_neg hnotHigh]
  | raised ha hless => rw [if_pos (less_lower_iff.2 ⟨_, ha, hless⟩), lower_eq_of_mem ha]
  | lowered hb hless =>
    -- a number above the upper bound is not below the lower one
    have hnotLow : ¬ x.less bounds.lower = true := by
      intro hlow
      obtain ⟨a, ha, hbelow⟩ := less_lower_iff.1 hlow
      have hcrossed := Binary64.less_trans hless hbelow
      rw [h.ordered a ha _ hb] at hcrossed
      cases hcrossed
    rw [if_neg hnotLow, if_pos (upper_less_iff.2 ⟨_, hb, hless⟩), upper_eq_of_mem hb]
  | nan hnan _ => cases hx.symm.trans hnan

/-- What is not a number does not stay so, nor is it smaller or larger than a bound. -/
theorem IsRange.not_limits_clampTo (h : bounds.IsRange) (hx : x.isNaN = true) :
    ¬ bounds.Limits x (clampTo bounds.lower bounds.upper x) := by
  rw [h.clampTo_of_isNaN hx]
  intro hlimits
  cases hlimits with
  | within hnumber => cases hnumber.symm.trans hx
  | raised _ hless => cases (Binary64.less_iff.1 hless).1.symm.trans hx
  | lowered _ hless => cases (Binary64.less_iff.1 hless).2.1.symm.trans hx
  | nan _ hlower => cases h.isNaN_lower.symm.trans hlower

end Bounds

end Builtin

/-! ### Accepted bounds -/

/-- A bound that a query gives is a number or what is not one, or it is left open. -/
theorem ParameterType.Produces.exists_bound {value : ParameterValue}
    (h : ParameterType.optionalFloat.Produces value) :
    ∃ bound, value = Builtin.boundValue bound := by
  obtain ⟨literal, h⟩ := h
  simp only [ParameterType.parse?] at h
  split at h
  · exact ⟨none, (Option.some.inj h).symm⟩
  · obtain ⟨x, -, rfl⟩ := Option.map_eq_some_iff.1 h
    exact ⟨some x.plain, rfl⟩

/-- A `Clamp` with the parameters of its signature has two bounds. -/
theorem Invocation.WellFormed.exists_bounds {kind : OperationKind} {invocation : Invocation}
    (h : invocation.WellFormed .builtin kind) (hname : invocation.name = "Clamp") :
    ∃ bounds : Builtin.Bounds, invocation.parameters = bounds.parameters := by
  obtain ⟨-, signature, hsignature, hadmits⟩ := h
  rw [hname] at hsignature
  cases kind with
  | reduction =>
    have hnone : Registry.builtin.signature? .reduction "Clamp" = none := by decide
    cases hnone.symm.trans hsignature
  | eltwise =>
    have hclamp : Registry.builtin.signature? .eltwise "Clamp" =
        some Builtin.clamp.toSignature := by rfl
    cases hclamp.symm.trans hsignature
    obtain ⟨first, more, ⟨hmin, hlow⟩, hmore, hparameters⟩ :=
      List.forall₂_cons_left_iff.1 hadmits
    obtain ⟨second, rest, ⟨hmax, hhigh⟩, hrest, rfl⟩ := List.forall₂_cons_left_iff.1 hmore
    obtain ⟨low, hlow⟩ := hlow.exists_bound
    obtain ⟨high, hhigh⟩ := hhigh.exists_bound
    have hfirst : first = ("min", Builtin.boundValue low) := Prod.ext hmin hlow
    have hsecond : second = ("max", Builtin.boundValue high) := Prod.ext hmax hhigh
    rw [hparameters, List.forall₂_nil_left_iff.1 hrest, hfirst, hsecond]
    exact ⟨⟨low, high⟩, rfl⟩

/-! ### The operation -/

/-- **The limits of a range.** Each `Clamp` of an accepted query has a lower and an upper bound,
given or left open. Where those that are given form a range, the registry has the function of the
operation, and it limits each number and does nothing else: within the bounds the number stays the
same, and otherwise it becomes the bound that it violates. So with both bounds left open all numbers
stay the same. What is not a number does not stay so: it becomes the lower bound, or the negative
infinity where this is left open. -/
theorem Builtin.clamp_limits_iff {text : String} {query : Query} {invocation : Invocation}
    (hparse : Query.parse .builtin text = .ok query) (hmem : invocation ∈ query.operations)
    (hname : invocation.name = "Clamp") :
    (∃ bounds : Bounds, invocation.parameters = bounds.parameters) ∧
    ∀ bounds : Bounds, invocation.parameters = bounds.parameters → bounds.IsRange →
      ∃ f, Registry.builtin.eltwise? invocation.name invocation.parameters = some f ∧
        (∀ x, x.isNaN = false →
          (∀ y, bounds.Limits x y ↔ y = f x) ∧ (bounds = ⟨none, none⟩ → f x = x)) ∧
        ∀ x, x.isNaN = true →
          f x = bounds.low.getD (.infinity true) ∧ ¬ bounds.Limits x (f x) := by
  constructor
  · have hquery := Query.wellFormed_of_parse Registry.coherent_builtin hparse
    obtain ⟨kind, hinvocation⟩ := Query.IsMadeOf.exists_kind hquery hmem
    exact hinvocation.exists_bounds hname
  · intro bounds hbounds hrange
    rw [hname, hbounds]
    refine ⟨clampTo bounds.lower bounds.upper, bounds.eltwise?_clamp, fun x hx => ?_,
      fun x hx => ⟨hrange.clampTo_of_isNaN hx, hrange.not_limits_clampTo hx⟩⟩
    have hlimits : ∀ y, bounds.Limits x y ↔ y = clampTo bounds.lower bounds.upper x :=
      fun y => ⟨hrange.eq_clampTo_of_limits hx, fun hy => hy ▸ hrange.limits_clampTo hx⟩
    refine ⟨hlimits, ?_⟩
    rintro rfl
    exact ((hlimits x).1 (.within hx (by simp) (by simp))).symm

/-- The range from -1 to 1, with the upper bound written first: a number above it, one below it, one
within it, and what is not a number. -/
theorem Builtin.clamp_limits_iff_unit : ∃ query invocation range f,
    Query.parse .builtin "gene @ score % Clamp ; max = 1 , min = -1" = .ok query ∧
    invocation ∈ query.operations ∧ invocation.name = "Clamp" ∧
    invocation.parameters = Bounds.parameters range ∧ range.IsRange ∧
    Registry.builtin.eltwise? invocation.name invocation.parameters = some f ∧
    f (.ofNat 2) = .ofNat 1 ∧ f (.infinity true) = (Binary64.ofNat 1).negate ∧
    f (.ofNat 0) = .ofNat 0 ∧ f (.nan false) = (Binary64.ofNat 1).negate := by
  let range : Bounds := ⟨some (Binary64.ofNat 1).negate, some (.ofNat 1)⟩
  let invocation : Invocation := ⟨"Clamp", range.parameters⟩
  let query : Query :=
    .vector (.lookup (.vector ⟨"gene", []⟩ ⟨⟨"score", []⟩, none, false⟩) [invocation])
  have hparse : (Query.parse .builtin "gene @ score % Clamp ; max = 1 , min = -1").toOption =
      some query := by
    decide +kernel
  rw [toOption_eq_some] at hparse
  have hmem : invocation ∈ query.operations := List.mem_cons_self
  have hrange : range.IsRange := ⟨by decide +kernel, by decide +kernel, by decide +kernel⟩
  obtain ⟨-, hlimits⟩ := clamp_limits_iff hparse hmem rfl
  obtain ⟨f, hf, hnumber, hnan⟩ := hlimits range rfl hrange
  have hvalue : ∀ {x y : Binary64}, x.isNaN = false → range.Limits x y → f x = y :=
    fun hx hy => (((hnumber _ hx).1 _).1 hy).symm
  refine ⟨query, invocation, range, f, hparse, hmem, rfl, rfl, hrange, hf, ?_, ?_, ?_, ?_⟩
  · exact hvalue (by decide +kernel) (.lowered rfl (by decide +kernel))
  · exact hvalue (by decide) (.raised rfl (by decide +kernel))
  · exact hvalue (by decide +kernel)
      (.within (by decide +kernel) (by decide +kernel) (by decide +kernel))
  · exact (hnan _ (by decide)).1

/-- Both bounds are left open, and still what is not a number becomes the negative infinity. -/
theorem Query.eval_clamp_nan : ∃ store query, store.Reachable ∧
    Query.parse .builtin "gene @ score % Clamp" = .ok query ∧
    query.operations = [⟨"Clamp", Builtin.Bounds.parameters ⟨none, none⟩⟩] ∧
    Builtin.Bounds.IsRange ⟨none, none⟩ ∧
    store.vector? "gene" "score" = some (.float [.nan false, .ofNat 1]) ∧
    query.eval store .builtin =
      .ok (some (.vector ⟨"gene", ["A", "B"], .float [.infinity true, .ofNat 1]⟩)) ∧
    ¬ Builtin.Bounds.Limits ⟨none, none⟩ (.nan false) (.infinity true) := by
  let store : Store := (Store.empty "s").run [.addAxis "gene" ["A", "B"],
    .setVector "gene" "score" (.float [.nan false, .ofNat 1])]
  let query : Query := .vector (.lookup (.vector ⟨"gene", []⟩ ⟨⟨"score", []⟩, none, false⟩)
    [⟨"Clamp", Builtin.Bounds.parameters ⟨none, none⟩⟩])
  have hreachable : store.Reachable := (Store.Reachable.empty "s").run (by decide)
  have hparse : (Query.parse .builtin "gene @ score % Clamp").toOption = some query := by
    decide +kernel
  have hvector : store.vector? "gene" "score" = some (.float [.nan false, .ofNat 1]) := by
    decide +kernel
  have heval : (query.eval store .builtin).toOption =
      some (some (.vector ⟨"gene", ["A", "B"], .float [.infinity true, .ofNat 1]⟩)) := by
    decide +kernel
  have hrange : Builtin.Bounds.IsRange ⟨none, none⟩ := ⟨by simp, by simp, by simp⟩
  refine ⟨store, query, hreachable, toOption_eq_some.1 hparse, rfl, hrange, hvector,
    toOption_eq_some.1 heval, fun hlimits => ?_⟩
  cases hlimits with
  | raised hmem => cases hmem
  | lowered hmem => cases hmem
  | nan _ hnan => cases hnan

end Axial
