import Provisioning.Capability.Basic
import Provisioning.Provision.Error

/-!
# Validation

A capability that was found, or that someone else created first, has to be shared in the scope asked
for and, where the requirement says so, implemented by the product asked for.
-/

namespace Provisioning.Capability

/-- Checks the labels of a capability against a requirement, the scope first. -/
def validate (requirement : Requirement) (capability : Capability) :
    Except ProvisioningError Unit :=
  let scope := requirement.effectiveScope.label
  if capability.scopeLabel? ≠ some scope then
    .error (.scopeMismatch capability.path scope capability.scopeLabel?)
  else
    match requirement.implementation with
    | none => .ok ()
    | some implementation =>
        if capability.implementationLabel? ≠ some implementation.label then
          .error (.implementationMismatch capability.path implementation.label
            capability.implementationLabel?)
        else
          .ok ()

/-- A capability is valid exactly when it carries the scope and, if required, the implementation. -/
theorem validate_eq_ok_iff {requirement : Requirement} {capability : Capability} :
    capability.validate requirement = .ok () ↔
      capability.scopeLabel? = some requirement.effectiveScope.label ∧
        ∀ implementation, requirement.implementation = some implementation →
          capability.implementationLabel? = some implementation.label := by
  unfold validate
  by_cases scopeEqual : capability.scopeLabel? = some requirement.effectiveScope.label
  · cases required : requirement.implementation with
    | none => simp [scopeEqual]
    | some implementation =>
        by_cases implementationEqual : capability.implementationLabel? = some implementation.label
        · simp [scopeEqual, implementationEqual]
        · simp [scopeEqual, implementationEqual]
  · simp [scopeEqual]

/-- A capability of another scope is refused for its scope, whatever its implementation. -/
theorem validate_of_scopeLabel_ne {requirement : Requirement} {capability : Capability}
    (other : capability.scopeLabel? ≠ some requirement.effectiveScope.label) :
    capability.validate requirement =
      .error (.scopeMismatch capability.path requirement.effectiveScope.label
        capability.scopeLabel?) := by
  simp only [validate, if_pos other]

/-- A capability of the scope asked for is refused for nothing but its implementation. -/
theorem kind_of_validate_of_scopeLabel {requirement : Requirement} {capability : Capability}
    {error : ProvisioningError}
    (sameScope : capability.scopeLabel? = some requirement.effectiveScope.label)
    (invalid : capability.validate requirement = .error error) :
    error.kind = "ImplementationMismatch" := by
  simp only [validate, sameScope, ne_eq, not_true_eq_false, if_false] at invalid
  cases required : requirement.implementation with
  | none =>
      rw [required] at invalid
      cases invalid
  | some implementation =>
      simp only [required] at invalid
      split at invalid
      · exact Except.error.inj invalid ▸ rfl
      · cases invalid

theorem kind_of_validate {requirement : Requirement} {capability : Capability}
    {error : ProvisioningError} (invalid : capability.validate requirement = .error error) :
    error.kind = "ScopeMismatch" ∨ error.kind = "ImplementationMismatch" := by
  by_cases sameScope : capability.scopeLabel? = some requirement.effectiveScope.label
  · exact Or.inr (kind_of_validate_of_scopeLabel sameScope invalid)
  · rw [validate_of_scopeLabel_ne sameScope, Except.error.injEq] at invalid
    exact Or.inl (invalid ▸ rfl)

end Provisioning.Capability
