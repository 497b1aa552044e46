import Provisioning.Provision.Call
import Provisioning.Requester

/-!
# Choosing a reference

A requester that leaves open which capability it uses gets the first that there is of: the reference
it states, a capability of the kind in its own namespace, and the operator's default.  Where none of
them names anything there is no reference, which is no error.
-/

namespace Provisioning

/-- A call that a choice makes. -/
inductive ReferenceCall where
  /-- Asks for a capability of a kind in a namespace. -/
  | discover (namespaceName : String) (kind : CapabilityKind)
  /-- Asks for the operator's defaults. -/
  | loadDefaults
  deriving DecidableEq

abbrev ReferenceCall.Answer : ReferenceCall → Type
  | .discover .. => Except Failure (Option Reference)
  | .loadDefaults => Except Failure Defaults

/-- A program that makes the calls of a choice. -/
abbrev ReferenceProgram := Program ReferenceCall ReferenceCall.Answer

namespace Reference

/-- The operator's default for a kind, for a requester in the given namespace. -/
def chooseDefault (namespaceName : String) (kind : CapabilityKind) :
    ReferenceProgram (Except Failure (Option Reference)) := do
  match ← Program.perform ReferenceCall.loadDefaults with
  | .error failure => return .error failure
  | .ok defaults => return .ok ((defaults.referenceFor? kind).bind (·.qualifiedIn? namespaceName))

/-- A capability of the kind in the namespace, or else the operator's default. -/
def chooseOpen (namespaceName : String) (kind : CapabilityKind) :
    ReferenceProgram (Except Failure (Option Reference)) := do
  match ← Program.perform (ReferenceCall.discover namespaceName kind) with
  | .error failure => return .error failure
  | .ok found? =>
      match found?.bind (·.qualifiedIn? namespaceName) with
      | some reference => return .ok (some reference)
      | none => chooseDefault namespaceName kind

/-- The reference of a requester for a kind of capability. -/
def choose (requester : Requester) (kind : CapabilityKind) (stated? : Option Reference) :
    ReferenceProgram (Except Failure (Option Reference)) :=
  match stated?.bind (·.qualifiedIn? requester.namespaceName) with
  | some reference => pure (.ok (some reference))
  | none => chooseOpen requester.namespaceName kind

/-- The reference of a requester for a requirement, which may state a preference. -/
def chooseFor (requester : Requester) (requirement : Requirement) :
    ReferenceProgram (Except Failure (Option Reference)) :=
  choose requester requirement.capability requirement.preferred

/-! ## Discovery -/

def leastName? : List String → Option String
  | [] => none
  | name :: rest =>
      match leastName? rest with
      | none => some name
      | some other => if other < name then some other else some name

/-- Finds a capability of a kind in a namespace by its label: of several, the first by name. -/
def discover (namespaceName : String) (kind : CapabilityKind) :
    CapabilityProgram (Except Failure (Option Reference)) := do
  match ← Program.perform (CapabilityCall.listIn namespaceName
      (StringMap.empty.insert Conventions.kindLabel kind.label)) with
  | .error failure => return .error failure
  | .ok capabilities =>
      return .ok ((leastName? (capabilities.map (·.name))).map (.qualified namespaceName))

/-- The calls of a choice as calls to the cluster. -/
def answerCall : (request : ReferenceCall) → CapabilityProgram request.Answer
  | .discover namespaceName kind => discover namespaceName kind
  | .loadDefaults => Program.perform CapabilityCall.loadDefaults

end Reference

end Provisioning
