import Provisioning.Capability.Metadata
import Provisioning.Conventions

/-!
# Pods

A workload pod as the cluster records it, as far as its state depends on it.
-/

namespace Provisioning

/-- A condition that an object reports. -/
structure Condition where
  type : String
  status : String
  deriving DecidableEq, Repr

/-- What is reported about the run of a container.  A container that has ended has an exit code,
whatever else is reported. -/
structure ContainerState where
  exitCode : Option Int := none
  running : Bool := false
  /-- Whether the container waits, and for what. -/
  waiting : Option (Option String) := none
  deriving DecidableEq, Repr

/-- The report on one container of a pod. -/
structure ContainerStatus where
  name : String
  ready : Bool := false
  state : Option ContainerState := none
  deriving DecidableEq, Repr

/-- What a pod reports about itself. -/
structure PodStatus where
  phase : Option String := none
  conditionReports : Option (List Condition) := none
  containerReports : Option (List ContainerStatus) := none
  initContainerReports : Option (List ContainerStatus) := none
  deriving DecidableEq, Repr

/-- A workload pod. -/
structure Pod where
  metadata : Metadata
  status : Option PodStatus := none
  deriving DecidableEq

namespace ContainerStatus

/-- The exit code of a container that has ended. -/
def exitCode? (status : ContainerStatus) : Option Int :=
  status.state.bind (·.exitCode)

end ContainerStatus

namespace PodStatus

def conditions (status : PodStatus) : List Condition :=
  status.conditionReports.getD []

/-- The containers that a pod reports, without those that only prepare it. -/
def containers (status : PodStatus) : List ContainerStatus :=
  status.containerReports.getD []

end PodStatus

namespace Pod

def name (pod : Pod) : String := pod.metadata.anyName

/-- The namespace of a pod, empty where there is none. -/
def home (pod : Pod) : String := pod.metadata.home

def labels (pod : Pod) : Labels := pod.metadata.allLabels

end Pod

end Provisioning
