import Provisioning.Provision.Basic
import Provisioning.Reference.Choice
import Provisioning.Rehearsal.Watch

/-!
# Rehearsing with capabilities

The rehearsed cluster answers the calls of provisioning and of the choice of references.  Lists of
capabilities come in decreasing order of their keys, which nobody may rely on.
-/

namespace Provisioning.Rehearsal

def answerCapabilityCall : (request : CapabilityCall) → Action (World Capability) request.Answer
  | .get namespaceName name =>
      collaborate (.get namespaceName name) do
        return .ok ((← get).store.find? ⟨namespaceName, name⟩)
  | .listIn namespaceName labels =>
      collaborate (.listIn namespaceName labels) do
        return .ok ((← get).store.inNamespace namespaceName labels).reverse
  | .listAll labels =>
      collaborate (.listAll labels) do return .ok ((← get).store.everywhere labels).reverse
  | .create capability => create capability
  | .loadDefaults => loadDefaults
  | .awaitSettled namespaceName name timeout =>
      waitFor (fun capability => return capability.phase.isTerminal) (.named namespaceName name)
        timeout

/-- Runs a program that makes the calls of provisioning. -/
def runCapabilityProgram {β : Type} (program : CapabilityProgram β) : Action (World Capability) β :=
  program.run (fun message => throw (.panicked message)) answerCapabilityCall

/-- Answers a call of a choice with a capability that is found whatever is in the cluster. -/
def answerReferenceCall (discovered? : Option Reference) :
    (request : ReferenceCall) → Action (World Capability) request.Answer
  | .discover namespaceName kind =>
      collaborate (.discover namespaceName kind) do return .ok discovered?
  | .loadDefaults => loadDefaults

/-- Runs a choice with a capability that is found whatever is in the cluster. -/
def runReferenceProgram {β : Type} (discovered? : Option Reference)
    (program : ReferenceProgram β) : Action (World Capability) β :=
  program.run (fun message => throw (.panicked message)) (answerReferenceCall discovered?)

end Provisioning.Rehearsal
