import Mathlib.Data.List.Forall2
import Axial.Operation.Builtin
import Axial.Proofs.NumberText
import Axial.Proofs.Parts
import Axial.Proofs.Spelling

/-!
# Parameters of operations

An operation that a registry resolves has the parameters of its signature, and it is resolved again
from the texts of their values.

* `ParameterType.Produces` : the values that a type reads from literals.
* `Registry.Coherent` : the parameters of an operation have distinct names that can be written, and
  defaults of their own types.
* `Invocation.WellFormed` : an operation with the parameters of its signature.
* `Invocation.resolve_texts` : the round trip.
-/

namespace Axial

/-! ### Values of parameters -/

/-- A value as its text gives it back. -/
def ParameterValue.plain : ParameterValue → ParameterValue
  | float x => float x.plain
  | value => value

@[simp] theorem Binary64.plain_plain (x : Binary64) : x.plain.plain = x.plain := by
  unfold plain
  split
  · rfl
  · rfl

theorem Literal.floatText_plain (x : Binary64) : floatText x.plain = floatText x := by
  unfold Binary64.plain
  split
  · next h =>
    rw [floatText, floatText, floatTextWith, floatTextWith, if_pos h]
    rfl
  · rfl

@[simp] theorem ParameterValue.plain_plain (value : ParameterValue) :
    value.plain.plain = value.plain := by
  cases value <;> simp [plain]

@[simp] theorem ParameterValue.text_plain (value : ParameterValue) :
    value.plain.text = value.text := by
  cases value with
  | float x => exact Literal.floatText_plain x
  | _ => rfl

/-- Some literal of the type has the value. -/
def ParameterType.Produces (type : ParameterType) (value : ParameterValue) : Prop :=
  ∃ literal, type.parse? literal = some value

theorem ParameterType.plain_of_number? {literal : String} {value : ParameterValue}
    (h : number? literal = some value) : value.plain = value := by
  obtain ⟨x, -, rfl⟩ := Option.map_eq_some_iff.1 h
  exact congrArg ParameterValue.float x.plain_plain

theorem ParameterType.number?_floatText (x : Binary64) :
    number? (Literal.floatText x) = some (.float x.plain) := by
  rw [number?, Literal.readFloat?_floatText, Option.map_some, Binary64.plain_plain]

theorem ParameterType.plain_of_logBase? {x : Binary64} {value : ParameterValue}
    (h : logBase? x = some value) :
    value = .e ∨ value = .float x ∧ x.plain = x := by
  unfold logBase? at h
  split at h
  · exact .inl (Option.some.inj h).symm
  · split at h
    · next hless =>
      refine .inr ⟨(Option.some.inj h).symm, ?_⟩
      -- what is positive is a number
      have hnan : x.isNaN = false := by
        simp only [Binary64.less, Binary64.compare?, Bool.and_eq_true] at hless
        by_contra hnan
        simp [hnan] at hless
      rw [Binary64.plain, hnan]
      rfl
    · cases h

/-- A base of a logarithm is the one with a name, or it is a number and read again as the same. -/
theorem ParameterType.eq_e_or_of_parse? {literal : String} {value : ParameterValue}
    (h : logBase.parse? literal = some value) :
    value = .e ∨ ∃ x, value = .float x ∧ x.plain = x ∧ logBase? x = some value := by
  simp only [parse?] at h
  split at h
  · exact .inl (Option.some.inj h).symm
  · obtain ⟨x, -, hx⟩ := Option.bind_eq_some_iff.1 h
    obtain he | ⟨hvalue, hplain⟩ := plain_of_logBase? hx
    · exact .inl he
    · exact .inr ⟨x, hvalue, hplain, hx⟩

open Literal in
/-- The text of a value is a literal of the value. -/
theorem ParameterType.parse?_text {type : ParameterType} {value : ParameterValue}
    (h : type.Produces value) : type.parse? value.text = some value.plain := by
  obtain ⟨literal, h⟩ := h
  have hword : ∀ (x : Binary64) (word : String), readFloat? word = none → floatText x ≠ word := by
    rintro x _ hnone rfl
    rw [readFloat?_floatText] at hnone
    cases hnone
  cases type with
  | float =>
    obtain ⟨x, -, rfl⟩ := Option.map_eq_some_iff.1 h
    exact number?_floatText x.plain
  | integer =>
    obtain ⟨n, -, rfl⟩ := Option.map_eq_some_iff.1 h
    exact congrArg (Option.map ParameterValue.integer) (readInt?_intText n)
  | logBase =>
    obtain rfl | ⟨x, rfl, hplain, hx⟩ := eq_e_or_of_parse? h
    · rfl
    · have hne : floatText x ≠ "e" := hword x "e" (by decide +kernel)
      show (if floatText x = "e" then some .e else (readFloat? (floatText x)).bind logBase?) = _
      rw [if_neg hne, readFloat?_floatText, hplain, Option.bind_some, hx, ParameterValue.plain,
        hplain]
  | optionalFloat =>
    simp only [parse?] at h
    split at h
    · cases h
      rfl
    · obtain ⟨x, -, rfl⟩ := Option.map_eq_some_iff.1 h
      have hne : floatText x.plain ≠ "auto" := hword x.plain "auto" (by decide +kernel)
      show (if floatText x.plain = "auto" then some .auto else number? (floatText x.plain)) = _
      rw [if_neg hne]
      exact number?_floatText x.plain

/-- The text of a value that is read from a literal tells all of it. -/
theorem ParameterType.Produces.plain_eq {type : ParameterType} {value : ParameterValue}
    (h : type.Produces value) : value.plain = value := by
  obtain ⟨literal, h⟩ := h
  cases type with
  | float => exact plain_of_number? h
  | integer =>
    obtain ⟨n, -, rfl⟩ := Option.map_eq_some_iff.1 h
    rfl
  | logBase =>
    obtain rfl | ⟨x, rfl, hplain, -⟩ := eq_e_or_of_parse? h
    · rfl
    · exact congrArg ParameterValue.float hplain
  | optionalFloat =>
    simp only [parse?] at h
    split at h
    · cases h
      rfl
    · exact plain_of_number? h

/-! ### The characters of values -/

theorem Text.isBlank_of_isDigit {c : Char} (h : c.isDigit = true) : isBlank c = false := by
  simp only [Char.isDigit, Bool.and_eq_true, decide_eq_true_eq] at h
  have hlow : 48 ≤ c.toNat := UInt32.le_iff_toNat_le.1 h.1
  have hhigh : c.toNat ≤ 57 := UInt32.le_iff_toNat_le.1 h.2
  have hranges : ∀ range ∈ blankRanges, 57 < range.1 ∨ range.2 < 48 := by decide
  rw [← Bool.not_eq_true, isBlank_iff]
  rintro ⟨range, hmem, hle⟩
  have := hranges range hmem
  omega

theorem Decimal.isBlank_of_mem_positional {d : Decimal} {c : Char} (h : c ∈ d.positional) :
    Text.isBlank c = false := by
  have hdigit : ∀ c ∈ digitChars d.digits, Text.isBlank c = false := fun c hc =>
    Text.isBlank_of_isDigit (Literal.isDigit_of_mem_digitChars hc)
  have hzero : Text.isBlank '0' = false := by decide
  have hpoint : Text.isBlank '.' = false := by decide
  have hzeros : ∀ n, ∀ c ∈ List.replicate n '0', Text.isBlank c = false := fun n c hc =>
    List.eq_of_mem_replicate hc ▸ hzero
  unfold positional placePoint at h
  split at h
  · rwa [List.mem_singleton.1 h]
  dsimp only at h
  split at h
  · simp only [List.mem_cons, List.mem_append] at h
    rcases h with rfl | rfl | h | h
    · exact hzero
    · exact hpoint
    · exact hzeros _ c h
    · exact hdigit c h
  · split at h
    · simp only [List.mem_append, List.not_mem_nil, or_false] at h
      exact h.elim (hdigit c) (hzeros _ c)
    · simp only [List.mem_cons, List.mem_append] at h
      rcases h with h | rfl | h
      · exact hdigit c (List.mem_of_mem_take h)
      · exact hpoint
      · exact hdigit c (List.mem_of_mem_drop h)

theorem Text.isWritable_ofList {cs : List Char} (hne : cs ≠ [])
    (h : ∀ c ∈ cs, isBlank c = false) : IsWritable (String.ofList cs) := by
  refine ⟨fun hempty => hne (by simpa using hempty), fun c hc hblank => ?_⟩
  rw [String.toList_ofList] at hc
  rw [h c hc] at hblank
  cases hblank

theorem Literal.isWritable_floatText (x : Binary64) : Text.IsWritable (floatText x) := by
  unfold floatText floatTextWith
  split
  · decide
  dsimp only
  generalize hdigits : (if Magnitude.infinity ≤ x.magnitude then ['i', 'n', 'f']
    else (Decimal.ofMagnitude .upward x.magnitude).positional) = cs
  have hcs : cs ≠ [] ∧ ∀ c ∈ cs, Text.isBlank c = false := by
    subst hdigits
    split
    · simp only [List.mem_cons, List.not_mem_nil, or_false, forall_eq_or_imp, forall_eq]
      decide
    · obtain ⟨c, cs, hcons, -⟩ := exists_isDigit_positional (.ofMagnitude .upward x.magnitude)
      exact ⟨by simp [hcons], fun c hc => Decimal.isBlank_of_mem_positional hc⟩
  split
  · exact Text.isWritable_ofList (by simp) (List.forall_mem_cons.2 ⟨by decide, hcs.2⟩)
  · exact Text.isWritable_ofList hcs.1 hcs.2

theorem Literal.isWritable_intText (n : Int64) : Text.IsWritable (intText n) := by
  have hdigits : ∀ m, ∀ c ∈ Decimal.digitChars m, Text.isBlank c = false := fun m c hc =>
    Text.isBlank_of_isDigit (isDigit_of_mem_digitChars hc)
  have htext : (intText n).toList ≠ [] ∧ ∀ c ∈ (intText n).toList, Text.isBlank c = false := by
    rw [intText, Int.toString_eq_repr]
    cases n.toInt with
    | ofNat m =>
      have hlist : (Int.repr (Int.ofNat m)).toList = Decimal.digitChars m := Nat.toList_repr
      rw [hlist]
      exact ⟨Nat.toDigits_ne_nil, hdigits m⟩
    | negSucc m =>
      have hlist : (Int.repr (Int.negSucc m)).toList = '-' :: Decimal.digitChars (m + 1) := by
        rw [Int.repr, String.toList_append, Nat.toList_repr]
        rfl
      rw [hlist]
      exact ⟨by simp, List.forall_mem_cons.2 ⟨by decide, hdigits (m + 1)⟩⟩
  have hofList := Text.isWritable_ofList htext.1 htext.2
  rwa [String.ofList_toList] at hofList

theorem ParameterValue.isWritable_text (value : ParameterValue) : Text.IsWritable value.text := by
  cases value with
  | float x => exact Literal.isWritable_floatText x
  | integer n => exact Literal.isWritable_intText n
  | e => decide
  | auto => decide

/-! ### Signatures -/

/-- The parameters have distinct names that can be written, and defaults of their own types. -/
structure Signature.Coherent (signature : Signature) : Prop where
  nodup : (signature.parameters.map ParameterSpec.name).Nodup
  isWritable : ∀ spec ∈ signature.parameters, Text.IsWritable spec.name
  produces : ∀ spec ∈ signature.parameters, spec.type.Produces spec.default

/-- All signatures of the registry are coherent. -/
def Registry.Coherent (registry : Registry) : Prop :=
  ∀ kind, ∀ signature ∈ registry.signatures kind, signature.Coherent

/-- A parameter has the name of its specification and a value of its type. -/
def ParameterSpec.Admits (spec : ParameterSpec) (parameter : String × ParameterValue) : Prop :=
  parameter.1 = spec.name ∧ spec.type.Produces parameter.2

/-- An operation of the registry, with a name that can be written and exactly the parameters of its
signature, in the same order. -/
structure Invocation.WellFormed (registry : Registry) (kind : OperationKind)
    (invocation : Invocation) : Prop where
  name : Text.IsWritable invocation.name
  parameters : ∃ signature, registry.signature? kind invocation.name = some signature ∧
    List.Forall₂ ParameterSpec.Admits signature.parameters invocation.parameters

/-- An operation as its text gives it back. -/
def Invocation.plain (invocation : Invocation) : Invocation :=
  { invocation with
    parameters := invocation.parameters.map fun (name, value) => (name, value.plain) }

theorem Parameters.map_plain_of_admits {specs : List ParameterSpec} {parameters : Parameters}
    (h : List.Forall₂ ParameterSpec.Admits specs parameters) :
    parameters.map (fun (name, value) => (name, value.plain)) = parameters := by
  induction h with
  | nil => rfl
  | cons hfirst _ ih => exact congrArg₂ List.cons (Prod.ext rfl hfirst.2.plain_eq) ih

/-- The texts of parameters of the right types tell all of an operation. -/
theorem Invocation.WellFormed.plain_eq {registry : Registry} {kind : OperationKind}
    {invocation : Invocation} (h : invocation.WellFormed registry kind) :
    invocation.plain = invocation := by
  obtain ⟨-, signature, -, hadmits⟩ := h
  rw [plain, Parameters.map_plain_of_admits hadmits]

theorem Registry.Coherent.signature {registry : Registry} (h : registry.Coherent)
    {kind : OperationKind} {name : String} {signature : Signature}
    (hsignature : registry.signature? kind name = some signature) : signature.Coherent :=
  h kind signature (List.mem_of_find?_eq_some hsignature)

/-! ### Resolving operations -/

section Resolve

variable {registry : Registry} {kind : OperationKind} {operation : String}

theorem ParameterSpec.admits_of_assignedValue {spec : ParameterSpec} {assignments : List Assignment}
    {parameter : String × ParameterValue} (hdefault : spec.type.Produces spec.default)
    (h : assignedValue kind operation assignments spec = .ok parameter) :
    spec.Admits parameter := by
  unfold assignedValue at h
  split at h
  · cases h
    exact ⟨rfl, hdefault⟩
  · next literal _ =>
    split at h
    · next value hvalue =>
      cases h
      exact ⟨rfl, literal, hvalue⟩
    · cases h

/-- What a coherent registry resolves has the parameters of its signature. -/
theorem Registry.Coherent.resolves (h : registry.Coherent) :
    registry.Resolves Text.IsWritable (Invocation.WellFormed registry) := by
  intro kind operation assignments invocation hname hresolve
  obtain ⟨rfl, signature, hsignature, -, hparameters⟩ := Invocation.exists_signature hresolve
  have hcoherent := h.signature hsignature
  refine ⟨hname, signature, hsignature, ?_⟩
  have hforall := mapM_eq_ok.1 hparameters
  rw [List.forall₂_iff_get] at hforall ⊢
  refine ⟨hforall.1, fun i hspec hparameter => ?_⟩
  exact ParameterSpec.admits_of_assignedValue (hcoherent.produces _ (List.get_mem ..))
    (hforall.2 i hspec hparameter)

/-- Assignments pass the check if and only if their names are declared, distinct, and none of those
before. -/
theorem checkAssignments_eq_ok {signature : Signature} {before : List String}
    {assignments : List Assignment} :
    checkAssignments kind signature operation before assignments = .ok () ↔
      (∀ assignment ∈ assignments, (signature.parameter? assignment.1).isSome) ∧
        (assignments.map Prod.fst).Nodup ∧ ∀ assignment ∈ assignments, assignment.1 ∉ before := by
  induction assignments generalizing before with
  | nil => simp [checkAssignments]
  | cons assignment more ih =>
    obtain ⟨name, literal⟩ := assignment
    rw [checkAssignments]
    split
    · next hunknown => simp [Option.isNone_iff_eq_none.1 hunknown]
    · next hknown =>
      split
      · next hold => simp [hold]
      · next hnew =>
        have hdeclared : (signature.parameter? name).isSome = true := by
          rwa [Bool.not_eq_true, Option.isNone_eq_false_iff] at hknown
        simp only [ih, List.map_cons, List.nodup_cons, List.mem_map, List.mem_cons, not_or]
        grind

theorem lookup_eq_some_iff {α : Type} {pairs : List (String × α)} {name : String} {a : α}
    (hnodup : (pairs.map Prod.fst).Nodup) : pairs.lookup name = some a ↔ (name, a) ∈ pairs := by
  induction pairs with
  | nil => simp
  | cons pair pairs ih =>
    obtain ⟨first, b⟩ := pair
    obtain ⟨hnot, hnodup⟩ := List.nodup_cons.1 hnodup
    rw [List.lookup_cons, List.mem_cons, Prod.mk.injEq]
    by_cases hname : name = first
    · have hlast : (name, a) ∉ pairs := fun hmem => hnot (List.mem_map.2 ⟨_, hmem, hname⟩)
      simp [hname, hname ▸ hlast, eq_comm]
    · have hne : (name == first) = false := beq_false_of_ne hname
      simp [hname, hne, ih hnodup]

/-- The literals of parameters, as they are written. -/
def Parameters.texts (parameters : Parameters) : List Assignment :=
  parameters.map fun (name, value) => (name, value.text)

/-- **Operations are resolved again from the texts of their parameters.** -/
theorem Invocation.resolve_texts {invocation : Invocation} (hregistry : registry.Coherent)
    (h : invocation.WellFormed registry kind) :
    resolve registry kind invocation.name invocation.parameters.texts = .ok invocation.plain := by
  obtain ⟨name, parameters⟩ := invocation
  obtain ⟨-, signature, hsignature, hadmits⟩ := h
  dsimp only at hsignature hadmits ⊢
  have hcoherent := hregistry.signature hsignature
  -- the parameters are those of the signature, so each is assigned once and none is unknown
  have hnames : parameters.texts.map Prod.fst = signature.parameters.map ParameterSpec.name := by
    rw [Parameters.texts, List.map_map]
    clear hsignature hcoherent
    generalize signature.parameters = specs at hadmits
    induction hadmits with
    | nil => rfl
    | cons hfirst _ ih => exact congrArg₂ List.cons hfirst.1 ih
  have hnodup : (parameters.texts.map Prod.fst).Nodup := hnames ▸ hcoherent.nodup
  have hdeclared : ∀ assignment ∈ parameters.texts,
      (signature.parameter? assignment.1).isSome := by
    intro assignment hmem
    have hname : assignment.1 ∈ signature.parameters.map ParameterSpec.name :=
      hnames ▸ List.mem_map_of_mem hmem
    obtain ⟨spec, hspec, hname⟩ := List.mem_map.1 hname
    rw [Signature.parameter?, List.find?_isSome]
    exact ⟨spec, hspec, by simpa using hname⟩
  have hvalues : signature.parameters.mapM (assignedValue kind name parameters.texts) =
      .ok (parameters.map fun (name, value) => (name, value.plain)) := by
    refine mapM_eq_ok.2 (List.forall₂_map_right_iff.2 ?_)
    rw [List.forall₂_iff_get] at hadmits ⊢
    refine ⟨hadmits.1, fun i hspec hparameter => ?_⟩
    obtain ⟨hname, hproduces⟩ := hadmits.2 i hspec hparameter
    -- the literal found under a distinct name is the one written for it
    have hlookup : parameters.texts.lookup (signature.parameters.get ⟨i, hspec⟩).name =
        some (parameters.get ⟨i, hparameter⟩).2.text := by
      refine (lookup_eq_some_iff hnodup).2 (hname ▸ ?_)
      exact List.mem_map_of_mem (List.get_mem ..)
    simp only [assignedValue, hlookup, ParameterType.parse?_text hproduces, hname]
  rw [resolve]
  simp only [hsignature]
  rw [checkAssignments_eq_ok.2 ⟨hdeclared, hnodup, by simp⟩, ok_bind, hvalues]
  rfl

end Resolve

end Axial
