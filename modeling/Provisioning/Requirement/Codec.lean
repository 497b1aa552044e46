import Provisioning.Requirement.Basic

/-!
# Requirements as JSON

Reading a requirement, and writing it without what is absent.
-/

namespace Provisioning.Requirement

/-- The members of a requirement as they are read. -/
structure Draft where
  capability : Option CapabilityKind := none
  implementation : Option (Option Implementation) := none
  scope : Option (Option Scope) := none
  strategy : Option (Option Strategy) := none
  selector : Option Labels := none
  specified : Option (Option Reference) := none
  preferred : Option (Option Reference) := none

/-- The members of a requirement, in their order. -/
def fields : List (Json.Field Draft) :=
  [.of "capability" (·.capability) (fun draft value => { draft with capability := some value })
      CapabilityKind.decoder,
    .of "implementation" (·.implementation)
      (fun draft value => { draft with implementation := some value })
      (.option Implementation.decoder),
    .of "scope" (·.scope) (fun draft value => { draft with scope := some value })
      (.option Scope.decoder),
    .of "provisioningStrategy" (·.strategy)
      (fun draft value => { draft with strategy := some value })
      (.option Strategy.decoder),
    .of "selector" (·.selector) (fun draft value => { draft with selector := some value })
      (.dictionary .string),
    .of "specifiedCapability" (·.specified)
      (fun draft value => { draft with specified := some value })
      (.option Reference.decoder),
    .of "preferredResourceReference" (·.preferred)
      (fun draft value => { draft with preferred := some value })
      (.option Reference.decoder)]

/-- The requirement that has been read; only the kind has to be there. -/
def Draft.finish (form : Json.RecordForm) (draft : Draft) : Except DecodeError Requirement := do
  let capability ←
    Json.required "capability" "CapabilityRequirement" 7 0 form draft.capability
  return { capability
           implementation := draft.implementation.join
           scope := draft.scope.join
           strategy := draft.strategy.join
           selector := draft.selector.getD .empty
           specified := draft.specified.join
           preferred := draft.preferred.join }

def decoder : Json.Decoder Requirement :=
  .record
    { expected := "struct CapabilityRequirement"
      fields
      start := {}
      finish := Draft.finish }

/-- Writes a requirement, without what is absent or empty. -/
def toJson (requirement : Requirement) : Json :=
  .ofPresent
    [("capability", some requirement.capability.label),
      ("implementation", requirement.implementation.map fun value => value.label),
      ("scope", requirement.scope.map fun value => value.label),
      ("provisioningStrategy", requirement.strategy.map fun value => value.label),
      ("selector",
        if requirement.selector.isEmpty then none
        else some (Json.ofMap .string requirement.selector)),
      ("specifiedCapability", requirement.specified.map Reference.toJson),
      ("preferredResourceReference", requirement.preferred.map Reference.toJson)]

end Provisioning.Requirement
