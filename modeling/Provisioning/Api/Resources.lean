import Provisioning.Api.Collection
import Provisioning.Wait.Error

/-!
# Capabilities, pods and defaults on the API server

The calls of provisioning and of the pod operations as exchanges with the server.
-/

namespace Provisioning.Api

variable {α : Type}

def orFailure : Except ServerError α → Except Failure α :=
  Except.mapError .server

/-- The failure of an object that has to live in a namespace and does not. -/
def homeless (name what : String) : Failure :=
  .validation name s!"{what} has no namespace" (some "metadata.namespace")

/-! ## Capabilities -/

/-- Reads one capability. -/
def getCapability (namespaceName name : String) :
    Exchange (Except Failure (Option Capability)) := do
  return orFailure (← get capabilities namespaceName name)

/-- Reads the capabilities of a namespace that carry the labels. -/
def listCapabilitiesIn (namespaceName : String) (labels : Labels) :
    Exchange (Except Failure (List Capability)) := do
  return orFailure (← list capabilities (capabilities.pathIn namespaceName) labels)

/-- Reads the capabilities of all namespaces that carry the labels. -/
def listAllCapabilities (labels : Labels) : Exchange (Except Failure (List Capability)) := do
  return orFailure (← list capabilities capabilities.pathAll labels)

/-- Creates a capability in the namespace that its metadata gives. -/
def createCapability (capability : Capability) : Exchange (Except Failure Capability) :=
  match capability.metadata.namespaceName with
  | none => pure (.error (homeless capability.name "capability"))
  | some namespaceName => do
      return orFailure (← create capabilities namespaceName capability.toJson)

/-- Reads the operator's defaults; where there is no such object, there are none. -/
def loadDefaults (namespaceName name : String) : Exchange (Except Failure Defaults) := do
  return orFailure ((← get defaultsObjects namespaceName name).map (·.getD {}))

/-! ## Pods -/

/-- Creates a pod in the namespace that its metadata gives. -/
def createPod (pod : Pod) : Exchange (Except Failure Pod) :=
  match pod.metadata.namespaceName with
  | none => pure (.error (homeless pod.name "pod"))
  | some namespaceName => do
      return orFailure (← create pods namespaceName pod.toJson)

/-- Reads the pods of a namespace that carry the labels. -/
def listPods (namespaceName : String) (labels : Labels) : Exchange (Except Failure (List Pod)) := do
  return orFailure (← list pods (pods.pathIn namespaceName) labels)

/-- Deletes a pod; one that is gone already counts as deleted. -/
def deletePod (namespaceName name : String) : Exchange (Except Failure Unit) := do
  match ← delete pods namespaceName name with
  | .ok _ => return .ok ()
  | .error error => if error.isNotFound then return .ok () else return .error (.server error)

/-! ## Waits -/

section Reading

variable {m : Type → Type} [Monad m] (get : String → String → m (Except ServerError (Option α)))
  (list : String → Labels → m (Except ServerError (List α)))

/-- Reads the objects that a locator addresses: one by its name, or all that carry the labels. -/
def locate : Locator → m (Except ServerError (List α))
  | .named namespaceName name => do
      return (← get namespaceName name).map (·.toList)
  | .labeled namespaceName selector => list namespaceName selector

/-- Reads the objects that a locator addresses, for a wait. -/
def currentBy (locator : Locator) : m (Except WaitError (List α)) := do
  return (← locate get list locator).mapError fun error => .unreadable locator (.server error)

end Reading

/-- Reads the objects that a locator addresses from the server, for a wait. -/
def current (collection : Collection α) : Locator → Exchange (Except WaitError (List α)) :=
  currentBy (get collection) fun namespaceName => list collection (collection.pathIn namespaceName)

end Provisioning.Api
