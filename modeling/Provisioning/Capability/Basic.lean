import Provisioning.Capability.Metadata
import Provisioning.Capability.Status
import Provisioning.Requirement.Codec

/-!
# Capabilities

A capability as the cluster records it: metadata, the requirement that describes it, and the status
that its controller reports.
-/

namespace Provisioning

/-- A capability provided in the cluster. -/
structure Capability where
  metadata : Metadata
  spec : Requirement
  status : Option CapabilityStatus := none
  deriving DecidableEq

namespace Capability

def name (capability : Capability) : String := capability.metadata.anyName

/-- The namespace of a capability, empty where there is none. -/
def home (capability : Capability) : String := capability.metadata.home

def labels (capability : Capability) : Labels := capability.metadata.allLabels

/-- The namespace and name of a capability in one text. -/
def path (capability : Capability) : String := capability.home ++ "/" ++ capability.name

/-- The phase of a capability: requested until a status is written. -/
def phase (capability : Capability) : Phase :=
  (capability.status.map (·.phase)).getD .requested

/-- The value of one of its labels. -/
def label? (capability : Capability) (key : String) : Option String :=
  capability.labels.get? key

def kindLabel? (capability : Capability) : Option String :=
  capability.label? Conventions.kindLabel

def scopeLabel? (capability : Capability) : Option String :=
  capability.label? Conventions.scopeLabel

def implementationLabel? (capability : Capability) : Option String :=
  capability.label? Conventions.implementationLabel

/-- The status of the server that stands for the whole. -/
def primaryServer? (capability : Capability) : Option ServerStatus :=
  capability.status.bind (·.primaryServer?)

/-! ## JSON -/

/-- The members of a capability as they are read. -/
structure Draft where
  metadata : Option Metadata := none
  spec : Option Requirement := none
  status : Option (Option CapabilityStatus) := none

/-- The members of a capability, in their order. -/
def fields : List (Json.Field Draft) :=
  [.of "metadata" (·.metadata) (fun draft value => { draft with metadata := some value })
      Metadata.decoder,
    .of "spec" (·.spec) (fun draft value => { draft with spec := some value }) Requirement.decoder,
    .of "status" (·.status) (fun draft value => { draft with status := some value })
      (.option CapabilityStatus.decoder)]

/-- The capability that has been read; as an array it has to be complete. -/
def Draft.finish (form : Json.RecordForm) (draft : Draft) : Except DecodeError Capability := do
  let metadata ← Json.required "metadata" "ProvidedCapability" 3 0 form draft.metadata
  let spec ← Json.required "spec" "ProvidedCapability" 3 1 form draft.spec
  let status ← match form with
    | .members => .ok draft.status.join
    | .items => Json.required "status" "ProvidedCapability" 3 2 form draft.status
  return { metadata, spec, status }

/-- Reads a capability; the group, version and kind it states are not looked at. -/
def decoder : Json.Decoder Capability :=
  .record { expected := "struct ProvidedCapability", fields, start := {}, finish := Draft.finish }

/-- The group and version under which capabilities are written. -/
def apiVersion : String := Conventions.resourceGroup ++ "/" ++ Conventions.resourceVersion

/-- Writes a capability with its group, version and kind. -/
def toJson (capability : Capability) : Json :=
  .ofPresent
    [("apiVersion", some apiVersion),
      ("kind", some Conventions.resourceKind),
      ("metadata", some capability.metadata.toJson),
      ("spec", some capability.spec.toJson),
      ("status", capability.status.map CapabilityStatus.toJson)]

end Capability

end Provisioning
