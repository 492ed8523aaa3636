import Axial.Proofs.Reading

/-!
# The parameters of an invocation

An operation is written as its name alone, or with assignments of literals to its parameters. The
assignments are checked in the order in which they are written, and then the parameters are
completed in the order of the signature. What comes out does not depend on the written order; only
which of several errors is reported does.

* `Expr.IsInvocation` : the tree of an operation with some assignments.
* `Signature.Accepts` : the names of the assignments are parameters and distinct, and the literals
  have values.
* `ParameterSpec.Takes` : a parameter of the result, assigned or by default.
* `Invocation.Fault` : the error that is reported.
* `checkAssignments_eq_error`, `assignedValue_eq_ok`, `assignedValue_eq_error` : the two passes.
* `Invocation.resolve_eq_ok`, `Invocation.exists_resolve_iff`, `Invocation.resolve_eq_error` : what
  assignments resolve to.
* `Invocation.ofExpr_of_isInvocation` : all of this for trees, in any order of the assignments, and
  with defaults written out or not.
-/

namespace Axial

/-! ### The tree of an invocation -/

/-- A tree is that of the tokens `operation ; name = literal , ..`, as it is parsed: the levels of
the operators group them. -/
structure Expr.IsInvocation (expr : Expr) (operation : String) (assignments : List Assignment) :
    Prop where
  grouped : expr.IsGrouped
  tokens : expr.tokens = .operand operation :: Assignment.tokensAfter .semicolon assignments

/-- The tokens of an invocation are grouped as a name, a semicolon, and assignments on the right of
commas. -/
theorem Expr.IsInvocation.ofExpr_eq {expr : Expr} {operation : String}
    {assignments : List Assignment} (h : expr.IsInvocation operation assignments)
    (registry : Registry) (kind : OperationKind) :
    Invocation.ofExpr registry kind expr =
      Invocation.resolve registry kind operation assignments := by
  have hfits : (Expr.joined (.operand operation 0)
      (Assignment.pairsAfter .semicolon assignments)).Fits 3 :=
    fits_joined (by decide) (fits_operand _) (Assignment.fits_pairsAfter rfl _)
  refine Invocation.ofExpr_joined (erase_eq_of_tokens_eq h.grouped hfits.grouped ?_)
  rw [h.tokens, tokens_joined, Assignment.tokens_pairsAfter]
  rfl

/-! ### What is asked of assignments -/

/-- The names of some assignments are parameters of the operation, and distinct. -/
structure Signature.Declares (signature : Signature) (assignments : List Assignment) : Prop where
  declared : ∀ assignment ∈ assignments, ∃ spec ∈ signature.parameters, spec.name = assignment.1
  nodup : (assignments.map Prod.fst).Nodup

/-- What is assigned to a parameter is a literal of its type. -/
def ParameterSpec.Accepts (spec : ParameterSpec) (assignments : List Assignment) : Prop :=
  ∀ literal, (spec.name, literal) ∈ assignments → ∃ value, spec.type.parse? literal = some value

/-- The names of some assignments are parameters of the operation, and distinct, and each parameter
accepts what is assigned to it. -/
structure Signature.Accepts (signature : Signature) (assignments : List Assignment) : Prop
    extends signature.Declares assignments where
  accepted : ∀ spec ∈ signature.parameters, spec.Accepts assignments

/-- A parameter with its name and its value: the one of the literal that is assigned to it, or the
default. -/
structure ParameterSpec.Takes (spec : ParameterSpec) (assignments : List Assignment)
    (parameter : String × ParameterValue) : Prop where
  name : parameter.1 = spec.name
  assigned : ∀ literal, (spec.name, literal) ∈ assignments →
    spec.type.parse? literal = some parameter.2
  unassigned : spec.name ∉ assignments.map Prod.fst → parameter.2 = spec.default

/-- The first name, in written order, that is no parameter of the operation or stands there
twice. -/
inductive Signature.NameFault (signature : Signature) (kind : OperationKind) (operation : String)
    (assignments : List Assignment) : ParseCause → Prop where
  | unknown {before after : List Assignment} {name literal : String}
    (h : assignments = before ++ (name, literal) :: after) (hbefore : signature.Declares before)
    (hname : ∀ spec ∈ signature.parameters, spec.name ≠ name) :
    NameFault signature kind operation assignments (.unknownParameter kind operation name)
  | repeated {before after : List Assignment} {name literal : String}
    (h : assignments = before ++ (name, literal) :: after) (hbefore : signature.Declares before)
    (hname : name ∈ before.map Prod.fst) :
    NameFault signature kind operation assignments (.duplicateParameter kind operation name)

/-- The error that is reported for an invocation: an operation that is not registered, or else the
first name that is unknown or repeated, or else the first parameter of the signature that does not
accept its literal. -/
inductive Invocation.Fault (registry : Registry) (kind : OperationKind) (operation : String)
    (assignments : List Assignment) : ParseCause → Prop where
  | unknownOperation (h : registry.signature? kind operation = none) :
    Fault registry kind operation assignments (.unknownOperation kind operation)
  | name {signature : Signature} {cause : ParseCause}
    (h : registry.signature? kind operation = some signature)
    (hname : signature.NameFault kind operation assignments cause) :
    Fault registry kind operation assignments cause
  | value {signature : Signature} {before after : List ParameterSpec} {spec : ParameterSpec}
    {literal : String} (h : registry.signature? kind operation = some signature)
    (hnames : signature.Declares assignments)
    (hspec : signature.parameters = before ++ spec :: after)
    (hbefore : ∀ earlier ∈ before, earlier.Accepts assignments)
    (hassigned : (spec.name, literal) ∈ assignments) (hvalue : spec.type.parse? literal = none) :
    Fault registry kind operation assignments
      (.invalidParameterValue kind operation spec.name literal spec.type)

variable {registry : Registry} {kind : OperationKind} {operation : String} {signature : Signature}
  {assignments more : List Assignment} {spec : ParameterSpec}
  {parameter : String × ParameterValue} {name literal : String} {cause : ParseCause}

/-! ### The names, in written order -/

theorem Signature.isSome_parameter?_iff :
    (signature.parameter? name).isSome ↔ ∃ spec ∈ signature.parameters, spec.name = name := by
  simp [parameter?, List.find?_isSome]

theorem checkAssignments_nil_eq_ok :
    checkAssignments kind signature operation [] assignments = .ok () ↔
      signature.Declares assignments := by
  simp only [checkAssignments_eq_ok, Signature.isSome_parameter?_iff, List.not_mem_nil,
    not_false_iff, implies_true, and_true]
  exact ⟨fun h => ⟨h.1, h.2⟩, fun h => ⟨h.1, h.2⟩⟩

/-- The names that are checked are those before the next ones. -/
theorem checkAssignments_append (seen : List String) (before after : List Assignment) :
    checkAssignments kind signature operation seen (before ++ after) = (do
      checkAssignments kind signature operation seen before
      checkAssignments kind signature operation ((before.map Prod.fst).reverse ++ seen) after) := by
  induction before generalizing seen with
  | nil => rfl
  | cons assignment before ih =>
    obtain ⟨name, literal⟩ := assignment
    rw [List.cons_append, checkAssignments, checkAssignments]
    split
    · rfl
    · split
      · rfl
      · rw [ih, List.map_cons, List.reverse_cons, List.append_assoc, List.singleton_append]

/-- After names that are fine, the next one is reported if it is unknown or was there before. -/
theorem checkAssignments_of_declares {before after : List Assignment}
    (hbefore : signature.Declares before) :
    checkAssignments kind signature operation [] (before ++ (name, literal) :: after) =
      if ∀ spec ∈ signature.parameters, spec.name ≠ name then
        .error (.unknownParameter kind operation name)
      else if name ∈ before.map Prod.fst then .error (.duplicateParameter kind operation name)
      else
        checkAssignments kind signature operation (name :: (before.map Prod.fst).reverse) after := by
  have hunknown : (signature.parameter? name).isNone ↔
      ∀ spec ∈ signature.parameters, spec.name ≠ name := by
    rw [← Option.not_isSome, Bool.not_eq_true', ← Bool.not_eq_true, Signature.isSome_parameter?_iff]
    simp
  rw [checkAssignments_append, checkAssignments_nil_eq_ok.2 hbefore, ok_bind, checkAssignments,
    List.append_nil]
  simp only [hunknown, List.mem_reverse]

/-- The check fails at the first name that is unknown or repeated. -/
theorem checkAssignments_eq_error :
    checkAssignments kind signature operation [] assignments = .error cause ↔
      signature.NameFault kind operation assignments cause := by
  constructor
  · intro h
    -- the last assignment counts only if those before it pass
    induction assignments using List.reverseRecOn with
    | nil => cases h
    | append_singleton before assignment ih =>
      obtain ⟨name, literal⟩ := assignment
      cases hcheck : checkAssignments kind signature operation [] before with
      | error cause' =>
        rw [checkAssignments_append, hcheck] at h
        cases h
        cases ih hcheck with
        | unknown h hbefore hname =>
          exact .unknown (by rw [h, List.append_assoc, List.cons_append]) hbefore hname
        | repeated h hbefore hname =>
          exact .repeated (by rw [h, List.append_assoc, List.cons_append]) hbefore hname
      | ok _ =>
        have hbefore := checkAssignments_nil_eq_ok.1 hcheck
        rw [checkAssignments_of_declares hbefore] at h
        split at h
        · next hname =>
          cases h
          exact .unknown rfl hbefore hname
        · split at h
          · next hname =>
            cases h
            exact .repeated rfl hbefore hname
          · cases h
  · rintro (⟨rfl, hbefore, hname⟩ | ⟨rfl, hbefore, hname⟩)
    · rw [checkAssignments_of_declares hbefore, if_pos hname]
    · obtain ⟨assignment, hmem, rfl⟩ := List.mem_map.1 hname
      have hknown : ¬ ∀ spec ∈ signature.parameters, spec.name ≠ assignment.1 := by
        obtain ⟨spec, hspec, heq⟩ := hbefore.declared assignment hmem
        exact fun hunknown => hunknown spec hspec heq
      rw [checkAssignments_of_declares hbefore, if_neg hknown, if_pos hname]

/-! ### The values, in the order of the signature -/

/-- The literal that is looked up for a parameter is the one that is assigned to it. -/
theorem assignedValue_of_mem (hnodup : (assignments.map Prod.fst).Nodup)
    (h : (spec.name, literal) ∈ assignments) :
    assignedValue kind operation assignments spec = (spec.type.parse? literal).elim
      (.error (.invalidParameterValue kind operation spec.name literal spec.type))
      fun value => .ok (spec.name, value) := by
  simp only [assignedValue, (lookup_eq_some_iff hnodup).2 h]
  cases spec.type.parse? literal with
  | none => rfl
  | some value => rfl

/-- A parameter without an assignment has its default. -/
theorem assignedValue_of_notMem (h : spec.name ∉ assignments.map Prod.fst) :
    assignedValue kind operation assignments spec = .ok (spec.name, spec.default) := by
  have hlookup : assignments.lookup spec.name = none := by
    refine List.lookup_eq_none_iff.2 fun assignment hmem => bne_iff_ne.2 fun heq => h ?_
    exact heq ▸ List.mem_map_of_mem hmem
  rw [assignedValue, hlookup]

theorem ParameterSpec.takes_iff_of_mem (hnodup : (assignments.map Prod.fst).Nodup)
    (h : (spec.name, literal) ∈ assignments) :
    spec.Takes assignments parameter ↔
      parameter.1 = spec.name ∧ spec.type.parse? literal = some parameter.2 := by
  refine ⟨fun htakes => ⟨htakes.name, htakes.assigned literal h⟩, fun ⟨hname, hvalue⟩ => ?_⟩
  refine ⟨hname, fun other hother => ?_, fun hnot => absurd (List.mem_map_of_mem h) hnot⟩
  -- distinct names are assigned one literal each
  have hsame := ((lookup_eq_some_iff hnodup).2 hother).symm.trans ((lookup_eq_some_iff hnodup).2 h)
  rwa [Option.some.inj hsame]

theorem ParameterSpec.takes_iff_of_notMem (h : spec.name ∉ assignments.map Prod.fst) :
    spec.Takes assignments parameter ↔ parameter = (spec.name, spec.default) := by
  obtain ⟨name, value⟩ := parameter
  rw [Prod.mk.injEq]
  refine ⟨fun htakes => ⟨htakes.name, htakes.unassigned h⟩, fun ⟨hname, hvalue⟩ => ?_⟩
  exact ⟨hname, fun literal hmem => absurd (List.mem_map_of_mem hmem) h, fun _ => hvalue⟩

theorem assignedValue_eq_ok (hnodup : (assignments.map Prod.fst).Nodup) :
    assignedValue kind operation assignments spec = .ok parameter ↔
      spec.Takes assignments parameter := by
  by_cases hassigned : spec.name ∈ assignments.map Prod.fst
  · obtain ⟨⟨_, literal⟩, hmem, rfl⟩ := List.mem_map.1 hassigned
    rw [assignedValue_of_mem hnodup hmem, ParameterSpec.takes_iff_of_mem hnodup hmem]
    cases spec.type.parse? literal with
    | none => simp
    | some value => simp [Prod.ext_iff, eq_comm]
  · rw [assignedValue_of_notMem hassigned, ParameterSpec.takes_iff_of_notMem hassigned,
      Except.ok.injEq, eq_comm]

theorem assignedValue_eq_error (hnodup : (assignments.map Prod.fst).Nodup) :
    assignedValue kind operation assignments spec = .error cause ↔
      ∃ literal, (spec.name, literal) ∈ assignments ∧ spec.type.parse? literal = none ∧
        cause = .invalidParameterValue kind operation spec.name literal spec.type := by
  constructor
  · intro h
    by_cases hassigned : spec.name ∈ assignments.map Prod.fst
    · obtain ⟨⟨_, literal⟩, hmem, rfl⟩ := List.mem_map.1 hassigned
      rw [assignedValue_of_mem hnodup hmem] at h
      cases hvalue : spec.type.parse? literal with
      | some value =>
        rw [hvalue] at h
        cases h
      | none =>
        rw [hvalue] at h
        cases h
        exact ⟨literal, hmem, hvalue, rfl⟩
    · rw [assignedValue_of_notMem hassigned] at h
      cases h
  · rintro ⟨literal, hmem, hvalue, rfl⟩
    rw [assignedValue_of_mem hnodup hmem, hvalue, Option.elim_none]

theorem exists_assignedValue_iff (hnodup : (assignments.map Prod.fst).Nodup) :
    (∃ parameter, assignedValue kind operation assignments spec = .ok parameter) ↔
      spec.Accepts assignments := by
  constructor
  · rintro ⟨parameter, h⟩ literal hmem
    exact ⟨_, ((assignedValue_eq_ok hnodup).1 h).assigned literal hmem⟩
  · intro haccepts
    cases h : assignedValue kind operation assignments spec with
    | ok parameter => exact ⟨parameter, rfl⟩
    | error cause =>
      obtain ⟨literal, hmem, hnone, -⟩ := (assignedValue_eq_error hnodup).1 h
      obtain ⟨value, hvalue⟩ := haccepts literal hmem
      cases hnone.symm.trans hvalue

/-! ### Resolving assignments -/

namespace Invocation

theorem resolve_of_signature? (h : registry.signature? kind operation = some signature) :
    resolve registry kind operation assignments = (do
      checkAssignments kind signature operation [] assignments
      let parameters ← signature.parameters.mapM (assignedValue kind operation assignments)
      return ⟨operation, parameters⟩) := by
  rw [resolve]
  simp only [h]

/-- What assignments resolve to has all parameters of the signature, in its order. -/
theorem resolve_eq_ok {invocation : Invocation} :
    resolve registry kind operation assignments = .ok invocation ↔
      invocation.name = operation ∧ ∃ signature,
        registry.signature? kind operation = some signature ∧ signature.Declares assignments ∧
          List.Forall₂ (·.Takes assignments) signature.parameters invocation.parameters := by
  constructor
  · intro h
    obtain ⟨hname, signature, hsignature, hcheck, hparameters⟩ := exists_signature h
    have hnames := checkAssignments_nil_eq_ok.1 hcheck
    refine ⟨hname, signature, hsignature, hnames, (mapM_eq_ok.1 hparameters).imp ?_⟩
    exact fun spec parameter => (assignedValue_eq_ok hnames.nodup).1
  · rintro ⟨rfl, signature, hsignature, hnames, htakes⟩
    have hparameters : signature.parameters.mapM (assignedValue kind invocation.name assignments) =
        .ok invocation.parameters :=
      mapM_eq_ok.2 (htakes.imp fun _ _ => (assignedValue_eq_ok hnames.nodup).2)
    rw [resolve_of_signature? hsignature, checkAssignments_nil_eq_ok.2 hnames, ok_bind, hparameters]
    rfl

theorem exists_resolve_iff :
    (∃ invocation, resolve registry kind operation assignments = .ok invocation) ↔
      ∃ signature, registry.signature? kind operation = some signature ∧
        signature.Accepts assignments := by
  constructor
  · rintro ⟨invocation, h⟩
    obtain ⟨-, signature, hsignature, hcheck, hparameters⟩ := exists_signature h
    have hnames := checkAssignments_nil_eq_ok.1 hcheck
    refine ⟨signature, hsignature, hnames, fun spec hspec => ?_⟩
    exact (exists_assignedValue_iff hnames.nodup).1
      (exists_mapM_eq_ok_iff.1 ⟨_, hparameters⟩ spec hspec)
  · rintro ⟨signature, hsignature, haccepts⟩
    have hnames := haccepts.toDeclares
    have hvalues : ∀ spec ∈ signature.parameters,
        ∃ parameter, assignedValue kind operation assignments spec = .ok parameter :=
      fun spec hspec => (exists_assignedValue_iff hnames.nodup).2 (haccepts.accepted spec hspec)
    obtain ⟨parameters, hparameters⟩ := exists_mapM_eq_ok_iff.2 hvalues
    refine ⟨⟨operation, parameters⟩, ?_⟩
    rw [resolve_of_signature? hsignature, checkAssignments_nil_eq_ok.2 hnames, ok_bind, hparameters]
    rfl

theorem resolve_eq_error :
    resolve registry kind operation assignments = .error cause ↔
      Fault registry kind operation assignments cause := by
  cases hsignature : registry.signature? kind operation with
  | none =>
    have hresolve : resolve registry kind operation assignments =
        .error (.unknownOperation kind operation) := by
      rw [resolve]
      simp only [hsignature]
    rw [hresolve]
    constructor
    · rintro ⟨⟩
      exact .unknownOperation hsignature
    · intro h
      cases h with
      | unknownOperation _ => rfl
      | name h _ => cases hsignature.symm.trans h
      | value h => cases hsignature.symm.trans h
  | some signature =>
    rw [resolve_of_signature? hsignature]
    constructor
    · intro h
      obtain hcheck | ⟨⟨⟩, hcheck, h⟩ := bind_eq_error.1 h
      · exact .name hsignature (checkAssignments_eq_error.1 hcheck)
      · have hnames := checkAssignments_nil_eq_ok.1 hcheck
        obtain hvalues | ⟨_, -, h⟩ := bind_eq_error.1 h
        · obtain ⟨before, spec, after, hspec, hbefore, herror⟩ := mapM_eq_error.1 hvalues
          obtain ⟨literal, hassigned, hvalue, rfl⟩ :=
            (assignedValue_eq_error hnames.nodup).1 herror
          exact .value hsignature hnames hspec (fun earlier hearlier =>
            (exists_assignedValue_iff hnames.nodup).1 (hbefore earlier hearlier)) hassigned hvalue
        · cases h
    · intro h
      cases h with
      | unknownOperation h => cases hsignature.symm.trans h
      | name h hname =>
        cases hsignature.symm.trans h
        rw [checkAssignments_eq_error.2 hname, error_bind]
      | @value _ before after spec literal h hnames hspec hbefore hassigned hvalue =>
        cases hsignature.symm.trans h
        have herror : assignedValue kind operation assignments spec =
            .error (.invalidParameterValue kind operation spec.name literal spec.type) :=
          (assignedValue_eq_error hnames.nodup).2 ⟨literal, hassigned, hvalue, rfl⟩
        have hvalues := mapM_eq_error.2 ⟨before, spec, after, hspec, fun earlier hearlier =>
          (exists_assignedValue_iff hnames.nodup).2 (hbefore earlier hearlier), herror⟩
        rw [checkAssignments_nil_eq_ok.2 hnames, ok_bind, hvalues, error_bind]

end Invocation

/-! ### Other assignments with the same result -/

theorem Signature.Declares.perm (h : signature.Declares assignments)
    (hperm : assignments.Perm more) : signature.Declares more where
  declared assignment hmem := h.declared assignment (hperm.mem_iff.2 hmem)
  nodup := (hperm.map Prod.fst).nodup_iff.1 h.nodup

/-- The value of a parameter depends on what is assigned to it alone. -/
theorem ParameterSpec.Takes.congr
    (hmem : ∀ literal, (spec.name, literal) ∈ assignments ↔ (spec.name, literal) ∈ more)
    (h : spec.Takes assignments parameter) : spec.Takes more parameter where
  name := h.name
  assigned literal hliteral := h.assigned literal ((hmem literal).2 hliteral)
  unassigned hnot := by
    refine h.unassigned fun hassigned => hnot ?_
    obtain ⟨⟨_, literal⟩, hliteral, rfl⟩ := List.mem_map.1 hassigned
    exact List.mem_map_of_mem ((hmem literal).1 hliteral)

/-- The literal of an assignment has the value that the parameter has by default. -/
structure Signature.IsDefault (signature : Signature) (assignment : Assignment) : Prop where
  declared : ∃ spec ∈ signature.parameters, spec.name = assignment.1
  value : ∀ spec ∈ signature.parameters, spec.name = assignment.1 →
    spec.type.parse? assignment.2 = some spec.default

theorem Signature.declares_cons_iff (hdefault : signature.IsDefault (name, literal))
    (hnew : name ∉ assignments.map Prod.fst) :
    signature.Declares ((name, literal) :: assignments) ↔ signature.Declares assignments := by
  constructor
  · rintro ⟨hdeclared, hnodup⟩
    exact ⟨(List.forall_mem_cons.1 hdeclared).2, (List.nodup_cons.1 hnodup).2⟩
  · rintro ⟨hdeclared, hnodup⟩
    exact ⟨List.forall_mem_cons.2 ⟨hdefault.declared, hdeclared⟩,
      List.nodup_cons.2 ⟨hnew, hnodup⟩⟩

/-- A parameter takes the same value where its default is written out. -/
theorem ParameterSpec.takes_cons_iff
    (hdefault : spec.name = name → spec.type.parse? literal = some spec.default)
    (hnew : name ∉ assignments.map Prod.fst) :
    spec.Takes ((name, literal) :: assignments) parameter ↔ spec.Takes assignments parameter := by
  by_cases hname : spec.name = name
  · subst hname
    rw [takes_iff_of_notMem hnew]
    constructor
    · intro h
      have hvalue := (h.assigned literal List.mem_cons_self).symm.trans (hdefault rfl)
      exact Prod.ext h.name (Option.some.inj hvalue)
    · rintro rfl
      refine ⟨rfl, fun other hother => ?_, fun hnot => absurd List.mem_cons_self hnot⟩
      rcases List.mem_cons.1 hother with heq | hmem
      · cases heq
        exact hdefault rfl
      · exact absurd (List.mem_map_of_mem hmem) hnew
  · have hmem : ∀ other, (spec.name, other) ∈ (name, literal) :: assignments ↔
        (spec.name, other) ∈ assignments := by simp [hname]
    exact ⟨.congr hmem, .congr fun other => (hmem other).symm⟩

namespace Invocation

/-- Where other assignments are fine as well and every parameter takes the same value from them,
they resolve to the same. -/
theorem resolve_of_takes {invocation : Invocation}
    (hsignature : registry.signature? kind operation = some signature)
    (hnames : signature.Declares assignments → signature.Declares more)
    (htakes : ∀ spec ∈ signature.parameters, ∀ parameter,
      spec.Takes assignments parameter → spec.Takes more parameter)
    (h : resolve registry kind operation assignments = .ok invocation) :
    resolve registry kind operation more = .ok invocation := by
  obtain ⟨hname, signature', hsignature', hdeclares, hparameters⟩ := resolve_eq_ok.1 h
  cases hsignature.symm.trans hsignature'
  refine resolve_eq_ok.2 ⟨hname, signature, hsignature, hnames hdeclares, ?_⟩
  exact ((List.forall₂_and_left _ _).2 ⟨htakes, hparameters⟩).imp
    fun spec parameter ⟨hkeep, htake⟩ => hkeep parameter htake

theorem resolve_of_perm (hperm : assignments.Perm more) {invocation : Invocation}
    (h : resolve registry kind operation assignments = .ok invocation) :
    resolve registry kind operation more = .ok invocation := by
  obtain ⟨-, signature, hsignature, -⟩ := resolve_eq_ok.1 h
  exact resolve_of_takes hsignature (fun hnames => hnames.perm hperm)
    (fun _ _ _ htake => htake.congr fun _ => hperm.mem_iff) h

theorem resolve_perm (hperm : assignments.Perm more) {invocation : Invocation} :
    resolve registry kind operation assignments = .ok invocation ↔
      resolve registry kind operation more = .ok invocation :=
  ⟨resolve_of_perm hperm, resolve_of_perm hperm.symm⟩

theorem resolve_cons_default (hsignature : registry.signature? kind operation = some signature)
    (hdefault : signature.IsDefault (name, literal)) (hnew : name ∉ assignments.map Prod.fst)
    {invocation : Invocation} :
    resolve registry kind operation ((name, literal) :: assignments) = .ok invocation ↔
      resolve registry kind operation assignments = .ok invocation := by
  have hnames := Signature.declares_cons_iff hdefault hnew
  have htakes : ∀ spec ∈ signature.parameters, ∀ parameter,
      spec.Takes ((name, literal) :: assignments) parameter ↔ spec.Takes assignments parameter :=
    fun spec hspec _ => ParameterSpec.takes_cons_iff (hdefault.value spec hspec) hnew
  constructor
  · exact resolve_of_takes hsignature hnames.1 fun spec hspec parameter =>
      (htakes spec hspec parameter).1
  · exact resolve_of_takes hsignature hnames.2 fun spec hspec parameter =>
      (htakes spec hspec parameter).2

/-- **Assignments of parameters.** An invocation is accepted if and only if its operation is
registered, all names that it assigns are distinct parameters of the operation, and each literal is
one of the type of its parameter. The result has exactly the parameters of the signature, in its
order, with the values that are assigned or else the defaults. Otherwise the error is that of the
operation, or else of the first name, in written order, that is unknown or repeated, or else of the
first parameter, in the order of the signature, that does not accept its literal. The result is the
same for any order of the assignments, and where a default is written out that was left out. -/
theorem ofExpr_of_isInvocation {expr : Expr} (h : expr.IsInvocation operation assignments)
    (registry : Registry) (kind : OperationKind) :
    ((∃ invocation, ofExpr registry kind expr = .ok invocation) ↔
      ∃ signature, registry.signature? kind operation = some signature ∧
        signature.Accepts assignments) ∧
    (∀ invocation, ofExpr registry kind expr = .ok invocation →
      invocation.name = operation ∧ ∃ signature,
        registry.signature? kind operation = some signature ∧
          List.Forall₂ (·.Takes assignments) signature.parameters invocation.parameters) ∧
    (∀ cause, ofExpr registry kind expr = .error cause ↔
      Fault registry kind operation assignments cause) ∧
    (∀ other more, Expr.IsInvocation other operation more → more.Perm assignments →
      ∀ invocation, ofExpr registry kind other = .ok invocation ↔
        ofExpr registry kind expr = .ok invocation) ∧
    ∀ signature assignment, registry.signature? kind operation = some signature →
      signature.IsDefault assignment → assignment.1 ∉ assignments.map Prod.fst →
      ∀ other more, Expr.IsInvocation other operation more →
        more.Perm (assignment :: assignments) →
        ∀ invocation, ofExpr registry kind other = .ok invocation ↔
          ofExpr registry kind expr = .ok invocation := by
  rw [h.ofExpr_eq]
  refine ⟨exists_resolve_iff, fun invocation hresolve => ?_, fun cause => resolve_eq_error,
    fun other more hother hperm invocation => ?_,
    fun signature assignment hsignature hdefault hnew other more hother hperm invocation => ?_⟩
  · obtain ⟨hname, signature, hsignature, -, htakes⟩ := resolve_eq_ok.1 hresolve
    exact ⟨hname, signature, hsignature, htakes⟩
  · rw [hother.ofExpr_eq]
    exact resolve_perm hperm
  · rw [hother.ofExpr_eq, resolve_perm hperm]
    exact resolve_cons_default hsignature hdefault hnew

/-- A default that is written out before the base of a logarithm, and a name that is unknown after a
literal that is no number. -/
theorem ofExpr_of_isInvocation_log : ∃ expr other wrong invocation,
    (Expr.parse "Log ; base = 2").toOption = some (expr, "Log ; base = 2") ∧
    (Expr.parse "Log;eps=0,base=2").toOption = some (other, "Log;eps=0,base=2") ∧
    (Expr.parse "Log ; eps = x , digits = 1").toOption =
      some (wrong, "Log ; eps = x , digits = 1") ∧
    ofExpr .builtin .eltwise expr = .ok invocation ∧
    invocation.parameters = [("base", .float (.ofNat 2)), ("eps", .float (.ofNat 0))] ∧
    ofExpr .builtin .eltwise other = .ok invocation ∧
    ofExpr .builtin .eltwise wrong = .error (.unknownParameter .eltwise "Log" "digits") := by
  let expr : Expr := .binary .semicolon 4 (.operand "Log" 0)
    (.binary (.compare .equal) 11 (.operand "base" 6) (.operand "2" 13))
  let other : Expr := .binary .semicolon 3 (.operand "Log" 0) (.binary .comma 9
    (.binary (.compare .equal) 7 (.operand "eps" 4) (.operand "0" 8))
    (.binary (.compare .equal) 14 (.operand "base" 10) (.operand "2" 15)))
  let wrong : Expr := .binary .semicolon 4 (.operand "Log" 0) (.binary .comma 14
    (.binary (.compare .equal) 10 (.operand "eps" 6) (.operand "x" 12))
    (.binary (.compare .equal) 23 (.operand "digits" 16) (.operand "1" 25)))
  have hparse : (Expr.parse "Log ; base = 2").toOption = some (expr, "Log ; base = 2") := by
    decide +kernel
  have hparse' : (Expr.parse "Log;eps=0,base=2").toOption = some (other, "Log;eps=0,base=2") := by
    decide +kernel
  have hwrong : (Expr.parse "Log ; eps = x , digits = 1").toOption =
      some (wrong, "Log ; eps = x , digits = 1") := by
    decide +kernel
  have hgrouped : ∀ {text cleaned : String} {tree : Expr},
      (Expr.parse text).toOption = some (tree, cleaned) → tree.IsGrouped := fun h =>
    (Expr.lexemes_of_parseLexemes (Expr.parse_eq_ok.1 (toOption_eq_some.1 h)).1).2
  have hbase : expr.IsInvocation "Log" [("base", "2")] := ⟨hgrouped hparse, rfl⟩
  have heps : other.IsInvocation "Log" [("eps", "0"), ("base", "2")] := ⟨hgrouped hparse', rfl⟩
  have hdigits : wrong.IsInvocation "Log" [("eps", "x"), ("digits", "1")] :=
    ⟨hgrouped hwrong, rfl⟩
  have hresult : (ofExpr .builtin .eltwise expr).toOption =
      some ⟨"Log", [("base", .float (.ofNat 2)), ("eps", .float (.ofNat 0))]⟩ := by
    decide +kernel
  rw [toOption_eq_some] at hresult
  obtain ⟨-, -, -, -, hdefault⟩ := ofExpr_of_isInvocation hbase .builtin .eltwise
  obtain ⟨-, -, herror, -⟩ := ofExpr_of_isInvocation hdigits .builtin .eltwise
  refine ⟨expr, other, wrong, _, hparse, hparse', hwrong, hresult, rfl, ?_, ?_⟩
  · exact (hdefault Builtin.log.toSignature ("eps", "0") rfl ⟨by decide, by decide +kernel⟩
      (by decide) other _ heps (.refl _) _).2 hresult
  · have hbefore : Builtin.log.Declares [("eps", "x")] := ⟨by decide, by decide⟩
    exact (herror _).2 (.name rfl (.unknown (by rfl) hbefore (by decide)))

end Invocation

end Axial
