import Provisioning.Labels.Selector
import Provisioning.Pod.Call
import Provisioning.Pod.Error
import Provisioning.Poll
import Provisioning.Settings

/-!
# Operations on pods

Starting a pod, running one to its end, waiting until one can be used, and cleaning up: completed pods
alone, or all pods with certain labels until none is left.  Every wait has its timeout in the
settings.
-/

namespace Provisioning

namespace PodOperation

/-- A program that ends with a value or with the reason why the operation failed. -/
abbrev Attempt := ExceptT PodError PodProgram

def ask (request : PodCall) : Attempt request.Answer :=
  ExceptT.lift (Program.perform request)

/-- Goes on with the answer to a call, or ends with its failure. -/
def orFail {α : Type} : Except Failure α → Attempt α
  | .ok value => pure value
  | .error failure => throw (.failed failure)

/-- Goes on with the namespace of a pod, which has to be there. -/
def homeOrFail (pod : Pod) : Attempt String :=
  match pod.metadata.namespaceName with
  | some namespaceName => pure namespaceName
  | none => throw (.missingNamespace pod.name)

/-- Waits until a pod reaches a goal.  A deadline that no clock can count to breaks the program
off. -/
def awaitGoal (goal : PodGoal) (locator : Locator) (timeout : Duration) : Attempt Pod := do
  match ← ask (.awaitGoal goal locator timeout) with
  | .met pod => return pod
  | .failed error => throw (.wait error)
  | .beyondClock => ExceptT.lift (Program.abort Wait.beyondClockMessage)

/-- Creates a pod and does not wait for it. -/
def start (pod : Pod) : Attempt Pod := do
  orFail (← ask (.create pod))

/-- Creates a pod and waits until it completes or fails. -/
def runToCompletion (settings : Settings) (pod : Pod) : Attempt Pod := do
  let namespaceName ← homeOrFail pod
  let _ ← start pod
  awaitGoal .finished (.named namespaceName pod.name) settings.podCompletionTimeout

/-- Waits until a pod with the given label is ready or completed. -/
def awaitLabeled (settings : Settings) (namespaceName label value : String) : Attempt Pod :=
  awaitGoal .available (.labeled namespaceName (StringMap.empty.insert label value))
    settings.podReadinessTimeout

/-- The first pod with the given labels, if there is one. -/
def load (namespaceName : String) (labels : Labels) : Attempt (Option Pod) := do
  return (← orFail (← ask (.list namespaceName labels))).head?

/-- Deletes pods of a namespace one after the other, up to the first failure. -/
def deleteAll (namespaceName : String) : List Pod → Attempt Unit
  | [] => pure ()
  | pod :: rest => do
      orFail (← ask (.delete namespaceName pod.name))
      deleteAll namespaceName rest

/-- Deletes the completed pods with the given labels and tells how many they were.  Failed ones are
kept. -/
def removeCompleted (namespaceName : String) (labels : Labels) : Attempt Nat := do
  let pods ← orFail (← ask (.list namespaceName labels))
  let completed := pods.filter (·.state == .completed)
  deleteAll namespaceName completed
  return completed.length

/-- The time between two looks at the pods that are going away. -/
def removalInterval : Duration := .ofMilliseconds 500

/-- The poll for the end of the pods with the given labels. -/
def removalPoll (settings : Settings) (namespaceName : String) (labels : Labels) : Poll where
  timeout := settings.podShutdownTimeout
  interval := removalInterval
  message := s!"pods [{labels.selector}] in {namespaceName} still present"

/-- Whether no pod with the given labels is left. -/
def areGone (namespaceName : String) (labels : Labels) : PodProgram (Except Failure Bool) := do
  return (← Program.perform (PodCall.list namespaceName labels)).map (·.isEmpty)

/-- Looks for the pods with the given labels until none is left.  A clock that stands still breaks
the program off. -/
def awaitRemoval (settings : Settings) (namespaceName : String) (labels : Labels) :
    Attempt Unit := do
  let poll := removalPoll settings namespaceName labels
  let result? ← ExceptT.lift <| poll.run (Program.perform PodCall.now)
    (fun span => Program.perform (PodCall.sleep span)) (areGone namespaceName labels)
    poll.checkBound
  match result? with
  | some result => orFail result
  | none => ExceptT.lift (Program.abort "the clock stands still")

/-- Deletes the pods with the given labels and waits until none is left. -/
def removeAndWait (settings : Settings) (namespaceName : String) (labels : Labels) :
    Attempt Unit := do
  let pods ← orFail (← ask (.list namespaceName labels))
  deleteAll namespaceName pods
  awaitRemoval settings namespaceName labels

/-- Deletes one pod. -/
def delete (pod : Pod) : Attempt Unit := do
  let namespaceName ← homeOrFail pod
  orFail (← ask (.delete namespaceName pod.name))

end PodOperation

end Provisioning
