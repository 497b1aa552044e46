import Provisioning.Capability.Basic
import Provisioning.Defaults
import Provisioning.Program
import Provisioning.Wait.Basic

/-!
# Calls of provisioning

What provisioning asks of the cluster: reading and creating capabilities, reading the operator's
defaults, and waiting until a controller settles a capability.
-/

namespace Provisioning

/-- A call that provisioning makes. -/
inductive CapabilityCall where
  /-- Asks for one capability. -/
  | get (namespaceName name : String)
  /-- Asks for the capabilities of a namespace that carry the labels. -/
  | listIn (namespaceName : String) (labels : Labels)
  /-- Asks for the capabilities of all namespaces that carry the labels. -/
  | listAll (labels : Labels)
  /-- Creates a capability in the namespace that its metadata gives. -/
  | create (capability : Capability)
  /-- Asks for the operator's defaults. -/
  | loadDefaults
  /-- Waits until the phase of a capability is terminal. -/
  | awaitSettled (namespaceName name : String) (timeout : Duration)
  deriving DecidableEq

namespace CapabilityCall

abbrev Answer : CapabilityCall → Type
  | .get .. => Except Failure (Option Capability)
  | .listIn .. => Except Failure (List Capability)
  | .listAll .. => Except Failure (List Capability)
  | .create _ => Except Failure Capability
  | .loadDefaults => Except Failure Defaults
  | .awaitSettled .. => Wait.End Capability

/-- Whether a call can change the cluster. -/
def isCreation : CapabilityCall → Bool
  | .create _ => true
  | _ => false

end CapabilityCall

abbrev CapabilityProgram := Program CapabilityCall CapabilityCall.Answer

end Provisioning
