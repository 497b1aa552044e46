import Provisioning.Cluster.ObjectKey
import Provisioning.Placement
import Provisioning.Provision.Call
import Provisioning.Provision.Result
import Provisioning.Provision.Validation

/-!
# Provisioning

A requirement is provided for by an existing capability that its lookup finds and that is valid for
it.  Where there is none, a capability is created at the canonical place of the scope; if someone
else created it first, that one is taken, provided that it is valid.  Either way the capability is
awaited until its controller settles it, and the lookup then has to find it.

Lookup and creation are two calls: canonical places and the refusal of taken names keep capabilities
single, except in the labeled scope, where every requester creates a capability of its own.
-/

namespace Provisioning

namespace Provision

/-- A program that ends with a value or with the reason why the requirement is not provided for. -/
abbrev Attempt := ExceptT ProvisioningError CapabilityProgram

def ask (request : CapabilityCall) : Attempt request.Answer :=
  ExceptT.lift (Program.perform request)

/-- Goes on with a value, or ends with an error. -/
def orEnd {α : Type} (result : Except ProvisioningError α) : Attempt α :=
  ExceptT.mk (pure result)

/-- Goes on with the answer to a call, or ends with its failure. -/
def orFail {α : Type} : Except Failure α → Attempt α
  | .ok value => pure value
  | .error failure => throw (.failed failure)

/-- The first capability by namespace and name; of several at one place, the first listed. -/
def first? : List Capability → Option Capability
  | [] => none
  | capability :: rest =>
      match first? rest with
      | none => some capability
      | some other =>
          if ClusterObject.key other < ClusterObject.key capability then some other
          else some capability

def find : Lookup → Attempt (Option Capability)
  | .byName namespaceName name => do orFail (← ask (.get namespaceName name))
  | .byLabels (some namespaceName) labels => do
      return first? (← orFail (← ask (.listIn namespaceName labels)))
  | .byLabels none labels => do
      return first? (← orFail (← ask (.listAll labels)))

/-- Waits until the controller of a capability settles it.  A deadline that no clock can count to
breaks the program off. -/
def settled (capability : Capability) (timeout : Duration) : Attempt Capability := do
  match ← ask (.awaitSettled capability.home capability.name timeout) with
  | .met object => return object
  | .failed error => throw (.ofWait error)
  | .beyondClock => ExceptT.lift (Program.abort Wait.beyondClockMessage)

/-- Takes the capability that someone else created at the same place. -/
def adopt (requirement : Requirement) (capability : Capability) : Attempt Capability := do
  match ← orFail (← ask (.get capability.home capability.name)) with
  | none =>
      throw (.inconsistent capability.home capability.name
        "create reported the name taken but it cannot be read")
  | some existing => do
      orEnd (existing.validate requirement)
      return existing

/-- Creates a capability, or takes the one that has its place already. -/
def createOrAdopt (requirement : Requirement) (capability : Capability) : Attempt Capability := do
  match ← ask (.create capability) with
  | .ok _ => return capability
  | .error (.server error) =>
      if error.isAlreadyExists then adopt requirement capability
      else throw (.failed (.server error))
  | .error failure => throw (.failed failure)

/-- Uses an existing capability: it has to be valid, and is awaited unless it is settled. -/
def useExisting (requirement : Requirement) (timeout : Duration) (existing : Capability) :
    Attempt ProvisionResult := do
  orEnd (existing.validate requirement)
  let capability ← if existing.phase.isTerminal then pure existing else settled existing timeout
  orEnd (ProvisionResult.ofCapability capability)

/-- Waits for a capability that was created and looks it up again. -/
def awaitCreated (lookup : Lookup) (timeout : Duration) (target : Capability) :
    Attempt ProvisionResult := do
  let capability ← settled target timeout
  if capability.phase = .failed then
    orEnd (ProvisionResult.ofCapability capability)
  else
    match ← find lookup with
    | some resolved => orEnd (ProvisionResult.ofCapability resolved)
    | none =>
        throw (.inconsistent target.home target.name
          "provisioned capability is not found by its lookup")

/-- Creates the capability for a requirement that no existing one satisfies. -/
def provideNew (operatorNamespace : String) (serial : Serial) (requester : Requester)
    (requirement : Requirement) (timeout : Duration) (lookup : Lookup) :
    Attempt ProvisionResult := do
  let defaults ← orFail (← ask .loadDefaults)
  let capability ← orEnd
    (Placement.build requester requirement defaults operatorNamespace serial)
  let target ← createOrAdopt requirement capability
  awaitCreated lookup timeout target

/-- Provides for a requirement once its lookup is planned. -/
def provideBy (operatorNamespace : String) (serial : Serial) (requester : Requester)
    (requirement : Requirement) (timeout : Duration) (lookup : Lookup) :
    Attempt ProvisionResult := do
  match ← find lookup with
  | some existing => useExisting requirement timeout existing
  | none => provideNew operatorNamespace serial requester requirement timeout lookup

/-- Provides for a requirement, by an existing capability or by a new one.  The wait for a capability
that is not settled yet ends after the timeout. -/
def provide (operatorNamespace : String) (serial : Serial) (requester : Requester)
    (requirement : Requirement) (timeout : Duration) :
    CapabilityProgram (Except ProvisioningError ProvisionResult) :=
  match Lookup.plan requester requirement with
  | .error error => pure (.error error)
  | .ok lookup =>
      (provideBy operatorNamespace serial requester requirement timeout lookup).run

end Provision

end Provisioning
