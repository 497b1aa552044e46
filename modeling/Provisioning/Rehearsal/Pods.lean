import Provisioning.Pod.Operations
import Provisioning.Rehearsal.Watch

/-!
# Rehearsing with pods

The rehearsed cluster answers the calls of the pod operations.  A deleted pod stays for the time of
grace.
-/

namespace Provisioning.Rehearsal

def answerPodCall : (request : PodCall) → Action (World Pod) request.Answer
  | .create pod => create pod
  | .list namespaceName labels =>
      collaborate (.list namespaceName labels) do
        return .ok ((← get).store.inNamespace namespaceName labels)
  | .delete namespaceName name =>
      collaborate (.delete namespaceName name) do
        modify fun world => (world.schedule world.grace (.remove ⟨namespaceName, name⟩)).applyDue
        return .ok ()
  | .awaitGoal goal locator timeout =>
      waitFor (fun pod => return goal.isReached pod) locator timeout
  | .now => (·.now) <$> readClock
  | .sleep span => pause span

/-- Runs a program that makes the calls of the pod operations. -/
def runPodProgram {β : Type} (program : PodProgram β) : Action (World Pod) β :=
  program.run (fun message => throw (.panicked message)) answerPodCall

end Provisioning.Rehearsal
