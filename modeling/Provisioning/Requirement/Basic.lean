import Provisioning.Capability.Vocabulary
import Provisioning.Labels.Basic
import Provisioning.Reference

/-!
# Requirements

What a consumer asks for.  A requirement is also the description of the capability that is created
to satisfy it.
-/

namespace Provisioning

/-- A consumer's requirement for a capability. -/
structure Requirement where
  /-- The kind of capability required. -/
  capability : CapabilityKind
  /-- The implementation required; any will do when absent. -/
  implementation : Option Implementation := none
  /-- The scope asked for. -/
  scope : Option Scope := none
  /-- How the capability's controller should bring it about. -/
  strategy : Option Strategy := none
  /-- The labels that select the capability in the labeled scope. -/
  selector : Labels := .empty
  /-- The capability to use in the specified scope. -/
  specified : Option Reference := none
  /-- The resource to use in place of the operator's defaults. -/
  preferred : Option Reference := none
  deriving DecidableEq, Repr

namespace Requirement

/-- The scope in force: an absent one means sharing within the namespace. -/
def effectiveScope (requirement : Requirement) : Scope :=
  requirement.scope.getD .namespaced

/-- The requirement with one more label in its selector. -/
def withSelector (requirement : Requirement) (key value : String) : Requirement :=
  { requirement with selector := requirement.selector.insert key value }

end Requirement

end Provisioning
