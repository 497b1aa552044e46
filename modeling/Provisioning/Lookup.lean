import Provisioning.Capability.Basic
import Provisioning.Requester

/-!
# Lookups

How an existing capability is found for a requirement: by its name in the dedicated and specified
scopes, by labels in the others.

| scope     | lookup                                    |
|-----------|-------------------------------------------|
| dedicated | `<requester>-<ending>` in its namespace   |
| specified | the name referred to                      |
| labeled   | the selector, in all namespaces           |
| namespace | the engine's labels, in its namespace     |
| cluster   | the engine's labels, in all namespaces    |
-/

namespace Provisioning

/-- How to find an existing capability. -/
inductive Lookup where
  | byName (namespaceName name : String)
  /-- Without a namespace every namespace is searched. -/
  | byLabels (namespaceName? : Option String) (labels : Labels)
  deriving DecidableEq, Repr

namespace Lookup

/-- The name of a capability that belongs to one requester. -/
def dedicatedName (requester : Requester) (requirement : Requirement) : String :=
  requester.name ++ "-" ++ requirement.capability.ending

/-- The namespace and name that a specified requirement refers to; neither may be empty. -/
def specifiedTarget (requester : Requester) (requirement : Requirement) :
    Except ProvisioningError (String × String) :=
  match requirement.specified.bind (·.target? requester.namespaceName) with
  | some (namespaceName, name) =>
      if namespaceName = "" then .error (.missingReference requirement.capability.label)
      else .ok (namespaceName, name)
  | none => .error (.missingReference requirement.capability.label)

/-- The labels that a capability shared by its kind must carry.  The scope is one of them only when
the requirement names it. -/
def sharedLabels (requirement : Requirement) : Labels :=
  let kind := StringMap.empty.insert Conventions.kindLabel requirement.capability.label
  let implemented := match requirement.implementation with
    | some implementation => kind.insert Conventions.implementationLabel implementation.label
    | none => kind
  match requirement.scope with
  | some scope => implemented.insert Conventions.scopeLabel scope.label
  | none => implemented

/-- Decides how to find the capability for a requirement. -/
def plan (requester : Requester) (requirement : Requirement) : Except ProvisioningError Lookup :=
  match requirement.effectiveScope with
  | .dedicated =>
      .ok (.byName requester.namespaceName (dedicatedName requester requirement))
  | .specified => do
      let (namespaceName, name) ← specifiedTarget requester requirement
      return .byName namespaceName name
  | .labeled =>
      if requirement.selector.isEmpty then
        .error (.missingSelector requirement.capability.label)
      else
        .ok (.byLabels none requirement.selector)
  | .namespaced => .ok (.byLabels (some requester.namespaceName) (sharedLabels requirement))
  | .cluster => .ok (.byLabels none (sharedLabels requirement))

/-- Whether a capability is one that the lookup asks for. -/
def matchesCapability (lookup : Lookup) (capability : Capability) : Bool :=
  match lookup with
  | .byName namespaceName name => capability.home == namespaceName && capability.name == name
  | .byLabels (some namespaceName) labels =>
      capability.home == namespaceName && capability.labels.carries labels
  | .byLabels none labels => capability.labels.carries labels

end Lookup

end Provisioning
