/-!
# Conventions of the operator

The label keys by which capabilities are found, and the names under which the operator runs, reads
its defaults and writes objects.
-/

namespace Provisioning.Conventions

def kindLabel : String := "capability-kind"

/-- Label with the scope in which a capability is shared. -/
def scopeLabel : String := "provision-scope"

def implementationLabel : String := "implementation"

def engineLabels : List String := [kindLabel, scopeLabel, implementationLabel]

@[simp]
theorem kindLabel_ne_scopeLabel : kindLabel ≠ scopeLabel := by decide

@[simp]
theorem kindLabel_ne_implementationLabel : kindLabel ≠ implementationLabel := by decide

@[simp]
theorem scopeLabel_ne_implementationLabel : scopeLabel ≠ implementationLabel := by decide

def operatorNamespace : String := "trellis-system"

/-- The object with the operator's defaults when nothing else is configured. -/
def defaultsObject : String := "trellis-default-capabilities"

def fieldManager : String := "trellis-capability-provisioner"

def resourceGroup : String := "trellis.dev"

def resourceVersion : String := "v1alpha1"

def resourceKind : String := "ProvidedCapability"

def resourcePlural : String := "providedcapabilities"

/-- The key of the status entry that describes a capability's main server. -/
def mainServer : String := "server"

/-- The context of an error that names none. -/
def unknownContext : String := "unknown"

def conditionHolds : String := "True"

/-- The condition of a pod whose containers are all ready. -/
def readyCondition : String := "Ready"

/-- The log filter when the environment names none. -/
def logFilter : String := "info,trellis=debug,kube=info,tower=warn,hyper=warn"

end Provisioning.Conventions
