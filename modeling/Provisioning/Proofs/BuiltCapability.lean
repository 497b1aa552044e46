import Provisioning.Proofs.Creation

/-!
# What is built for a requirement

What is built is described twice: by its labels, for the lookups of others, and by its spec, for its
controller.  Both say the same as the requirement that it is built for.  The engine's labels go over
those of the selector, so a selector cannot make them say anything else; and the spec names the
scope in force, so it can stand for the requirement from then on.

Main statement: what is built, and that the same is built for its spec (`build_describes`).
-/

namespace Provisioning

/-- The labels of a requirement that what is built for it carries besides those of the engine. -/
def Requirement.selected (requirement : Requirement) : Labels :=
  if requirement.effectiveScope = .labeled then requirement.selector else .empty

namespace Placement

variable {requester : Requester} {requirement : Requirement} {defaults : Defaults}
  {operatorNamespace : String} {serial : Serial} {capability : Capability}

/-! ## Labels -/

/-- The labels that the engine gives to what is built. -/
def engineLabels (requirement : Requirement) : Labels :=
  .ofList ([(Conventions.kindLabel, requirement.capability.label),
    (Conventions.scopeLabel, requirement.effectiveScope.label)] ++
      (requirement.implementation.map fun implementation =>
        (Conventions.implementationLabel, implementation.label)).toList)

@[simp]
theorem get?_engineLabels (requirement : Requirement) (name : String) :
    (engineLabels requirement).get? name = engineLabel? requirement name := by
  unfold engineLabels engineLabel?
  cases requirement.implementation with
  | none =>
      rw [StringMap.get?_ofList (by simp)]
      simp [StringMap.lookup_cons_ite]
  | some implementation =>
      rw [StringMap.get?_ofList (by simp)]
      simp [StringMap.lookup_cons_ite]

@[simp]
theorem get?_selected (requirement : Requirement) (name : String) :
    requirement.selected.get? name =
      if requirement.effectiveScope = .labeled then requirement.selector.get? name else none := by
  unfold Requirement.selected
  by_cases labeled : requirement.effectiveScope = .labeled
  · simp [labeled]
  · simp [labeled]

/-- The labels are those of the selector with the engine's over them. -/
theorem labels_eq_override (requirement : Requirement) :
    labels requirement = requirement.selected.override (engineLabels requirement) := by
  refine StringMap.ext_get? fun name => ?_
  simp [get?_labels]

/-! ## Names -/

theorem append_ne_empty (front : String) {back : String} (filled : back ≠ "") :
    front ++ back ≠ "" := fun isEmpty =>
  filled (String.append_eq_empty_iff.mp isEmpty).2

theorem hyphenated_ne_empty (front back : String) : front ++ "-" ++ back ≠ "" := fun isEmpty =>
  append_ne_empty front (by decide) (String.append_eq_empty_iff.mp isEmpty).1

/-- Whatever the scope, the canonical place has a name. -/
theorem name_ne_empty_of_isCanonical {place : ObjectKey}
    (canonical : requirement.IsCanonical requester defaults operatorNamespace serial place) :
    place.name ≠ "" := by
  unfold Requirement.IsCanonical at canonical
  cases scope : requirement.effectiveScope with
  | dedicated =>
      simp only [scope] at canonical
      rw [canonical]
      exact hyphenated_ne_empty _ _
  | specified =>
      simp only [scope] at canonical
      obtain ⟨_, _, _, filled, _⟩ := canonical
      exact filled
  | labeled =>
      simp only [scope] at canonical
      rw [canonical]
      exact hyphenated_ne_empty _ _
  | namespaced =>
      simp only [scope] at canonical
      rw [canonical]
      exact append_ne_empty _ (by decide)
  | cluster =>
      simp only [scope] at canonical
      rcases canonical.2 with set | ⟨isUsual, _⟩
      · exact set.filled
      · rw [isUsual]
        exact append_ne_empty _ (by decide)

/-! ## What is built -/

/-- For a requirement whose scope is written out, the same is built. -/
theorem build_scoped (requester : Requester) (requirement : Requirement) (defaults : Defaults)
    (operatorNamespace : String) (serial : Serial) :
    build requester { requirement with scope := some requirement.effectiveScope } defaults
        operatorNamespace serial =
      build requester requirement defaults operatorNamespace serial :=
  rfl

/-- What is built is valid for its requirement.  It carries the labels of the selector, in the
labeled scope, with the engine's over them: those say the kind, the scope in force and the
implementation asked for, and where none is asked for, a selector may say one.  It has a name, no
status, and is described by the requirement with its scope written out, for which the same would be
built. -/
theorem build_describes
    (built : build requester requirement defaults operatorNamespace serial = .ok capability) :
    capability.validate requirement = .ok () ∧
    capability.metadata.labels = some (requirement.selected.override (engineLabels requirement)) ∧
    capability.kindLabel? = some requirement.capability.label ∧
    capability.scopeLabel? = some requirement.effectiveScope.label ∧
    capability.implementationLabel? = (requirement.implementation.map Implementation.label).or
      (requirement.selected.get? Conventions.implementationLabel) ∧
    (∀ name ∉ Conventions.engineLabels, capability.label? name = requirement.selected.get? name) ∧
    (∃ name, capability.metadata.name = some name ∧ name ≠ "") ∧
    capability.status = none ∧ capability.phase = .requested ∧
    capability.spec = { requirement with scope := some requirement.effectiveScope } ∧
    build requester capability.spec defaults operatorNamespace serial = .ok capability := by
  have labeled : ∀ name, capability.label? name =
      (engineLabel? requirement name).or (requirement.selected.get? name) := by
    intro name
    rw [Capability.label?, labels_of_build built, get?_labels, get?_selected]
  have unsettled := status_of_build built
  have described := spec_of_build built
  have named := name_ne_empty_of_isCanonical (isCanonical_of_build built)
  refine ⟨validate_build built, ?_, ?_, ?_, ?_, ?_, ?_, unsettled, ?_, described, ?_⟩
  · obtain ⟨_, _, _, rfl⟩ := build_eq_ok_iff.mp built
    exact congrArg some (labels_eq_override requirement)
  · rw [Capability.kindLabel?, labeled, engineLabel?, if_pos rfl, Option.some_or]
  · rw [Capability.scopeLabel?, labeled, engineLabel?_scopeLabel, Option.some_or]
  · simp [Capability.implementationLabel?, labeled]
  · intro name foreign
    rw [labeled, engineLabel?_eq_none foreign, Option.none_or]
  · obtain ⟨_, name, _, rfl⟩ := build_eq_ok_iff.mp built
    exact ⟨name, rfl, named⟩
  · rw [Capability.phase, unsettled]
    rfl
  · rw [described, build_scoped, built]

/-- A requirement of the labeled scope whose selector says things that the engine says itself. -/
def presumptuous : Requirement where
  capability := .dbms
  scope := some .labeled
  selector := ((StringMap.empty.insert Conventions.kindLabel "queue").insert
    Conventions.implementationLabel "homemade").insert "team" "payments"

/-- What is built is a database all the same, but of the implementation that the selector says. -/
theorem build_describes_presumptuous :
    ∃ capability, build ⟨"shop", "retail"⟩ presumptuous {} "operators" ⟨42, by decide⟩ =
        .ok capability ∧
      capability.kindLabel? = some "dbms" ∧ capability.implementationLabel? = some "homemade" ∧
      capability.label? "team" = some "payments" := by
  have planned : Lookup.plan ⟨"shop", "retail"⟩ presumptuous =
      .ok (.byLabels none presumptuous.selector) := by decide
  obtain ⟨capability, built⟩ := exists_build planned {} "operators" ⟨42, by decide⟩
  obtain ⟨_, _, ofKind, _, implemented, selected, _⟩ := build_describes built
  refine ⟨capability, built, ofKind, ?_, ?_⟩
  · rw [implemented]
    decide
  · rw [selected "team" (by decide)]
    decide

end Placement

end Provisioning
