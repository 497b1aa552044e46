import Provisioning.Capability.Metadata
import Provisioning.Provision.Error

/-!
# Requesters

The resource that needs a capability.
-/

namespace Provisioning

/-- The resource that needs a capability. -/
structure Requester where
  name : String
  namespaceName : String
  deriving DecidableEq, Repr

namespace Requester

/-- The requester for an object of the cluster, which has to live in a namespace. -/
def ofObject (metadata : Metadata) : Except ProvisioningError Requester :=
  match metadata.namespaceName with
  | some namespaceName => .ok ⟨metadata.anyName, namespaceName⟩
  | none => .error (.missingNamespace metadata.anyName)

end Requester

end Provisioning
