import Provisioning.Defaults
import Provisioning.Lookup

/-!
# Placement

Where the capability for a requirement is created and what it looks like: the canonical name and
namespace of its scope, the engine's labels, and the requirement with its scope written out.

| scope     | name                                  | namespace                |
|-----------|---------------------------------------|--------------------------|
| dedicated | `<requester>-<ending>`                | the requester's          |
| specified | the name referred to                  | the one referred to      |
| labeled   | `[<implementation>-]<kind>-NNNN`      | the requester's          |
| namespace | `default-[<implementation>-]<kind>-in-namespace` | the requester's |
| cluster   | `default-[<implementation>-]<kind>-in-cluster`   | the operator's  |

The operator's defaults can replace the name and the namespace in the cluster scope, each on its own.
-/

namespace Provisioning

/-- The four digits that tell labeled capabilities apart, drawn at random. -/
abbrev Serial := Fin 10000

def Serial.text (serial : Serial) : String :=
  let digits := Nat.toDigits 10 serial.val
  String.ofList (List.replicate (4 - digits.length) '0' ++ digits)

namespace Placement

/-- The implementation and kind of a requirement, as parts of a name. -/
def stem (requirement : Requirement) : String :=
  match requirement.implementation with
  | some implementation =>
      implementation.hyphenated ++ "-" ++ requirement.capability.hyphenated
  | none => requirement.capability.hyphenated

/-- The beginning of the names of shared capabilities. -/
def baseName (requirement : Requirement) : String :=
  "default-" ++ stem requirement

/-- The name of a capability found by labels. -/
def labeledName (requirement : Requirement) (serial : Serial) : String :=
  stem requirement ++ "-" ++ serial.text

/-- The namespace and name at which the capability for a requirement is created. -/
def place (requester : Requester) (requirement : Requirement) (defaults : Defaults)
    (operatorNamespace : String) (serial : Serial) :
    Except ProvisioningError (String × String) :=
  let base := baseName requirement
  match requirement.effectiveScope with
  | .dedicated =>
      .ok (requester.namespaceName, Lookup.dedicatedName requester requirement)
  | .specified => Lookup.specifiedTarget requester requirement
  | .labeled => .ok (requester.namespaceName, labeledName requirement serial)
  | .namespaced => .ok (requester.namespaceName, base ++ "-in-namespace")
  | .cluster =>
      .ok ((defaults.get? (base ++ "-namespace")).getD operatorNamespace,
        (defaults.get? (base ++ "-name")).getD (base ++ "-in-cluster"))

/-- The labels of the capability that is created: the engine's, over the selector in the labeled
scope. -/
def labels (requirement : Requirement) : Labels :=
  let scope := requirement.effectiveScope
  let selected := if scope = .labeled then requirement.selector else .empty
  let described := (selected.insert Conventions.kindLabel requirement.capability.label).insert
    Conventions.scopeLabel scope.label
  match requirement.implementation with
  | some implementation => described.insert Conventions.implementationLabel implementation.label
  | none => described

/-- The capability to create when no existing one satisfies the requirement. -/
def build (requester : Requester) (requirement : Requirement) (defaults : Defaults)
    (operatorNamespace : String) (serial : Serial) : Except ProvisioningError Capability := do
  let (namespaceName, name) ← place requester requirement defaults operatorNamespace serial
  return {
    metadata :=
      { name := some name
        namespaceName := some namespaceName
        labels := some (labels requirement) }
    spec := { requirement with scope := some requirement.effectiveScope } }

end Placement

end Provisioning
