import Provisioning.Pod.State
import Provisioning.Program
import Provisioning.Wait.Basic

/-!
# Calls of the pod operations

What the operations on pods ask of the cluster: creating, listing and deleting pods, waiting for one
to reach a goal, and the clock.
-/

namespace Provisioning

/-- What a wait for a pod is for. -/
inductive PodGoal where
  /-- The pod completed or failed. -/
  | finished
  /-- The pod is ready, or completed already. -/
  | available
  deriving DecidableEq, Repr

def PodGoal.isReached : PodGoal → Pod → Bool
  | .finished, pod => pod.state.isFinished
  | .available, pod => pod.state.isAvailable

/-- A call that the pod operations make. -/
inductive PodCall where
  /-- Creates a pod in the namespace that its metadata gives. -/
  | create (pod : Pod)
  /-- Asks for the pods of a namespace that carry the labels. -/
  | list (namespaceName : String) (labels : Labels)
  /-- Deletes a pod; one that is gone already counts as deleted. -/
  | delete (namespaceName name : String)
  /-- Waits until a pod reaches a goal. -/
  | awaitGoal (goal : PodGoal) (locator : Locator) (timeout : Duration)
  /-- Reads the clock. -/
  | now
  /-- Lets time pass. -/
  | sleep (span : Duration)
  deriving DecidableEq

/-- The answers to a call of the pod operations. -/
abbrev PodCall.Answer : PodCall → Type
  | .create _ => Except Failure Pod
  | .list .. => Except Failure (List Pod)
  | .delete .. => Except Failure Unit
  | .awaitGoal .. => Wait.End Pod
  | .now => Duration
  | .sleep _ => Unit

/-- A program that makes the calls of the pod operations. -/
abbrev PodProgram := Program PodCall PodCall.Answer

end Provisioning
