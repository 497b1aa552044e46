import Provisioning.Pod.Basic

/-!
# Pod states

The state of a pod, derived from the pod on every look and never kept: its phase decides when it is
final, then the exit codes once every container has ended, then readiness.
-/

namespace Provisioning

/-- The state of a pod in its life. -/
inductive PodState where
  | pending
  | ready
  | completed
  | failed
  deriving DecidableEq, Repr

namespace PodState

def text : PodState → String
  | .pending => "Pending"
  | .ready => "Ready"
  | .completed => "Completed"
  | .failed => "Failed"

/-- Ready to serve, or done successfully. -/
def isAvailable : PodState → Bool
  | .ready | .completed => true
  | .pending | .failed => false

/-- A finished pod does not change any more. -/
def isFinished : PodState → Bool
  | .completed | .failed => true
  | .pending | .ready => false

end PodState

namespace PodStatus

/-- The exit codes of the containers once every one of them has ended. -/
def exitCodes? (status : PodStatus) : Option (List Int) :=
  if status.containers.isEmpty then none else status.containers.mapM (·.exitCode?)

def hasCondition (conditions : List Condition) (type : String) : Bool :=
  conditions.any fun condition =>
    condition.type == type && condition.status == Conventions.conditionHolds

/-- Whether the pod is ready: all of its containers are, or it says so in a condition. -/
def isReady (status : PodStatus) : Bool :=
  (!status.containers.isEmpty && status.containers.all (·.ready)) ||
    hasCondition status.conditions Conventions.readyCondition

def state (status : PodStatus) : PodState :=
  if status.phase = some "Succeeded" then .completed
  else if status.phase = some "Failed" then .failed
  else
    match status.exitCodes? with
    | some codes => if codes.any (· ≠ 0) then .failed else .completed
    | none => if status.isReady then .ready else .pending

end PodStatus

namespace Pod

/-- The state of a pod; one without a status is pending. -/
def state (pod : Pod) : PodState :=
  match pod.status with
  | some status => status.state
  | none => .pending

end Pod

end Provisioning
