import Provisioning.Capability.Vocabulary
import Provisioning.Conventions
import Provisioning.Json.Record

/-!
# The status of a capability

What the controller of a capability reports: its phase, the servers that it deployed, and a message.
-/

namespace Provisioning

/-- What was deployed for one server of a capability. -/
structure ServerStatus where
  /-- The service that exposes the server inside the cluster. -/
  serviceName : Option String := none
  /-- The ingress that exposes it outside. -/
  ingressName : Option String := none
  /-- The secret with its administrator's credentials. -/
  adminSecretName : Option String := none
  deriving DecidableEq, Repr, Inhabited

/-- The status of a capability, owned by its controller. -/
structure CapabilityStatus where
  phase : Phase := .requested
  /-- The deployed servers by their role. -/
  servers : StringMap ServerStatus := .empty
  message : Option String := none
  observedGeneration : Option Int64 := none
  deriving DecidableEq

namespace ServerStatus

/-- The members of a server status as they are read. -/
structure Draft where
  serviceName : Option (Option String) := none
  ingressName : Option (Option String) := none
  adminSecretName : Option (Option String) := none

/-- The members of a server status, in their order. -/
def fields : List (Json.Field Draft) :=
  [.of "serviceName" (·.serviceName)
      (fun draft value => { draft with serviceName := some value }) (.option .string),
    .of "ingressName" (·.ingressName)
      (fun draft value => { draft with ingressName := some value }) (.option .string),
    .of "adminSecretName" (·.adminSecretName)
      (fun draft value => { draft with adminSecretName := some value })
      (.option .string)]

def decoder : Json.Decoder ServerStatus :=
  .plainRecord "struct ServerStatus" fields {} fun draft =>
    ⟨draft.serviceName.join, draft.ingressName.join, draft.adminSecretName.join⟩

/-- Writes a server status, without what is absent. -/
def toJson (status : ServerStatus) : Json :=
  .ofPresent
    [("serviceName", status.serviceName.map .string),
      ("ingressName", status.ingressName.map .string),
      ("adminSecretName", status.adminSecretName.map .string)]

end ServerStatus

namespace CapabilityStatus

/-- The server that stands for the whole: the main one, or the first one recorded. -/
def primaryServer? (status : CapabilityStatus) : Option ServerStatus :=
  status.servers.get? Conventions.mainServer <|> status.servers.entries.head?.map (·.2)

/-- The members of a status as they are read. -/
structure Draft where
  phase : Option Phase := none
  servers : Option (StringMap ServerStatus) := none
  message : Option (Option String) := none
  observedGeneration : Option (Option Int64) := none

/-- The members of a status, in their order. -/
def fields : List (Json.Field Draft) :=
  [.of "phase" (·.phase) (fun draft value => { draft with phase := some value }) Phase.decoder,
    .of "serverStatus" (·.servers) (fun draft value => { draft with servers := some value })
      (.dictionary ServerStatus.decoder),
    .of "message" (·.message) (fun draft value => { draft with message := some value })
      (.option .string),
    .of "observedGeneration" (·.observedGeneration)
      (fun draft value => { draft with observedGeneration := some value })
      (.option .int64)]

/-- Reads a status; an absent phase is the first one. -/
def decoder : Json.Decoder CapabilityStatus :=
  .plainRecord "struct ProvidedCapabilityStatus" fields {} fun draft =>
    { phase := draft.phase.getD .requested
      servers := draft.servers.getD .empty
      message := draft.message.join
      observedGeneration := draft.observedGeneration.join }

/-- Writes a status: always with its phase, without what is absent or empty. -/
def toJson (status : CapabilityStatus) : Json :=
  .ofPresent
    [("phase", some status.phase.label),
      ("serverStatus",
        if status.servers.isEmpty then none
        else some (Json.ofMap ServerStatus.toJson status.servers)),
      ("message", status.message.map .string),
      ("observedGeneration", status.observedGeneration.map fun value => .int value.toInt)]

end CapabilityStatus

end Provisioning
