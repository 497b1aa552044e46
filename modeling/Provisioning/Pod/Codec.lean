import Provisioning.Pod.Basic

/-!
# Pods as JSON

Reading and writing pods.  A null counts as absent in every member.  What every container report has
to say is written even where nothing is known: no image, no image identifier and no restarts.
-/

namespace Provisioning

namespace Condition

def decoder : Json.Decoder Condition :=
  .resource "PodCondition"
    [.lastOf "type" (fun condition value => { condition with type := value })
        (.orDefault "" .string),
      .lastOf "status" (fun condition value => { condition with status := value })
        (.orDefault "" .string)]
    ⟨"", ""⟩

def toJson (condition : Condition) : Json :=
  .object [("status", condition.status), ("type", condition.type)]

end Condition

namespace ContainerState

def runningDecoder : Json.Decoder Unit :=
  .resource "ContainerStateRunning" [] ()

/-- Reads the exit code of a container that has ended; without one it is that of success. -/
def terminatedDecoder : Json.Decoder Int :=
  .resource "ContainerStateTerminated"
    [.lastOf "exitCode" (fun _ value => value) (.orDefault 0 .int32)] 0

def waitingDecoder : Json.Decoder (Option String) :=
  .resource "ContainerStateWaiting"
    [.lastOf "reason" (fun _ value => value) (.option .string)] none

def decoder : Json.Decoder ContainerState :=
  .resource "ContainerState"
    [.lastOf "terminated" (fun state value => { state with exitCode := value })
        (.option terminatedDecoder),
      .lastOf "running" (fun state value => { state with running := value.isSome })
        (.option runningDecoder),
      .lastOf "waiting" (fun state value => { state with waiting := value })
        (.option waitingDecoder)]
    {}

def toJson (state : ContainerState) : Json :=
  .ofPresent
    [("running", if state.running then some (.object []) else none),
      ("terminated", state.exitCode.map fun exitCode => .object [("exitCode", .int exitCode)]),
      ("waiting", state.waiting.map fun reason => .ofPresent [("reason", reason.map .string)])]

end ContainerState

namespace ContainerStatus

/-- Reads the report on a container; a missing readiness means not ready. -/
def decoder : Json.Decoder ContainerStatus :=
  .resource "ContainerStatus"
    [.lastOf "name" (fun report value => { report with name := value }) (.orDefault "" .string),
      .lastOf "ready" (fun report value => { report with ready := value })
        (.orDefault false .bool),
      .lastOf "state" (fun report value => { report with state := value })
        (.option ContainerState.decoder)]
    { name := "" }

def toJson (status : ContainerStatus) : Json :=
  .ofPresent
    [("image", some ""), ("imageID", some ""), ("name", some status.name),
      ("ready", some status.ready), ("restartCount", some (.int 0)),
      ("state", status.state.map ContainerState.toJson)]

end ContainerStatus

namespace PodStatus

def decoder : Json.Decoder PodStatus :=
  .resource "PodStatus"
    [.lastOf "phase" (fun report value => { report with phase := value }) (.option .string),
      .lastOf "conditions" (fun report value => { report with conditionReports := value })
        (.option (.list Condition.decoder)),
      .lastOf "containerStatuses" (fun report value => { report with containerReports := value })
        (.option (.list ContainerStatus.decoder)),
      .lastOf "initContainerStatuses"
        (fun report value => { report with initContainerReports := value })
        (.option (.list ContainerStatus.decoder))]
    {}

def toJson (status : PodStatus) : Json :=
  .ofPresent
    [("conditions",
        status.conditionReports.map fun reports => .array (reports.map Condition.toJson)),
      ("containerStatuses",
        status.containerReports.map fun reports => .array (reports.map ContainerStatus.toJson)),
      ("initContainerStatuses",
        status.initContainerReports.map fun reports =>
          .array (reports.map ContainerStatus.toJson)),
      ("phase", status.phase.map .string)]

end PodStatus

namespace Pod

/-- The group and version under which pods are written. -/
def apiVersion : String := "v1"

def kind : String := "Pod"

/-- Reads a pod, which may only state its own version and kind; absent metadata is empty. -/
def decoder : Json.Decoder Pod :=
  .resource kind
    [.checked "apiVersion" (.constant apiVersion),
      .checked "kind" (.constant kind),
      .lastOf "metadata" (fun pod value => { pod with metadata := value })
        (.orDefault {} Metadata.decoder),
      .lastOf "status" (fun pod value => { pod with status := value })
        (.option PodStatus.decoder)]
    { metadata := {} }

def toJson (pod : Pod) : Json :=
  .ofPresent
    [("apiVersion", some apiVersion), ("kind", some kind),
      ("metadata", some pod.metadata.toJson),
      ("status", pod.status.map PodStatus.toJson)]

end Pod

end Provisioning
