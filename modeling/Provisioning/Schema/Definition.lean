import Provisioning.Capability.Vocabulary
import Provisioning.Conventions
import Provisioning.Schema.Basic

/-!
# The definition of the resource

The shapes of requirements and of statuses, and the definition under which the API server keeps
capabilities.
-/

namespace Provisioning

namespace Schema

/-- A place with a description, for a value that has to be there. -/
def described (description : String) : SchemaNotes :=
  { description := some description }

/-- A place with a description, for a value that may be absent or null. -/
def optional (description : String) : SchemaNotes :=
  { description := some description, nullable := true }

def reference (description : String) : Schema :=
  .record (optional description)
    [("name", .text (optional "Name of the referenced resource")),
      ("namespace", .text (optional "Namespace of the referenced resource"))]
    []

/-- What the definition says about a requirement as a whole. -/
def requirementDescription : String :=
  "A consumer's requirement for a capability.\n\n" ++
    "Doubles as the spec of the ProvidedCapability created to satisfy it.\n\n" ++
    "Example: ```yaml apiVersion: trellis.dev/v1alpha1 kind: ProvidedCapability metadata: " ++
    "name: default-mysql-dbms-in-namespace namespace: shop labels: capability-kind: dbms " ++
    "implementation: mysql provision-scope: namespace spec: capability: dbms " ++
    "implementation: mysql scope: namespace ```"

def requirement : Schema :=
  .record (described requirementDescription)
    [("capability",
        .word (described "The kind of capability required") (CapabilityKind.all.map (·.label))),
      ("implementation",
        .word (optional "Required implementation; any implementation will do when absent")
          (Implementation.all.map (·.label))),
      ("preferredResourceReference",
        reference "Explicit resource to use instead of the operator's defaults"),
      ("provisioningStrategy",
        .word (optional "Provisioning strategy passed on to the capability's controller")
          (Strategy.all.map (·.label))),
      ("scope",
        .word (optional "Sharing scope; `namespace` when absent") (Scope.all.map (·.label))),
      ("selector",
        .dictionary
          (described "Labels selecting the capability (required for `labeled` scope)")
          (.text {})),
      ("specifiedCapability",
        reference "The capability to use (required for `specified` scope)")]
    ["capability"]

def serverStatus : Schema :=
  .record (described "What the capability's controller deployed for one logical server")
    [("adminSecretName",
        .text (optional "Secret holding the server's admin credentials")),
      ("ingressName", .text (optional "Ingress exposing the server outside the cluster")),
      ("serviceName", .text (optional "Service exposing the server inside the cluster"))]
    []

def status : Schema :=
  .record (optional "ProvidedCapability status, owned by the capability's controller")
    [("message", .text (optional "Human-readable message")),
      ("observedGeneration",
        .integer (optional "Generation observed by the capability's controller")),
      ("phase",
        .word
          { description := some "Current phase", default := some Phase.requested.label }
          (Phase.all.map (·.label))),
      ("serverStatus",
        .dictionary (described "Deployed servers keyed by logical role") serverStatus)]
    []

/-- The shape of a capability, apart from what all objects have in common. -/
def capability : Schema :=
  .record
    (described "Auto-generated derived type for CapabilityRequirement via `CustomResource`")
    [("spec", requirement), ("status", status)]
    ["spec"]

end Schema

namespace ResourceDefinition

def names : Json :=
  .object
    [("categories", .array []), ("kind", Conventions.resourceKind),
      ("plural", .string Conventions.resourcePlural), ("shortNames", Schema.texts ["pcap"]),
      ("singular", "providedcapability")]

/-- The columns in which capabilities are listed: name, path and type. -/
def columns : List (String × String × String) :=
  [("Capability", ".spec.capability", "string"),
    ("Implementation", ".spec.implementation", "string"),
    ("Scope", ".spec.scope", "string"),
    ("Phase", ".status.phase", "string"),
    ("Age", ".metadata.creationTimestamp", "date")]

def columnToJson : String × String × String → Json
  | (name, path, type) => .object [("jsonPath", path), ("name", name), ("type", type)]

/-- The schema of the resource, under its title. -/
def titledSchema : Json :=
  match Schema.capability.toJson with
  | .object members => .object (members ++ [("title", .string Conventions.resourceKind)])
  | other => other

/-- The one version of the resource. -/
def version : Json :=
  .object
    [("additionalPrinterColumns", .array (columns.map columnToJson)),
      ("name", Conventions.resourceVersion),
      ("schema", .object [("openAPIV3Schema", titledSchema)]),
      ("served", true), ("storage", true),
      ("subresources", .object [("status", .object [])])]

/-- The definition under which the API server keeps capabilities. -/
def document : Json :=
  .object
    [("apiVersion", "apiextensions.k8s.io/v1"), ("kind", "CustomResourceDefinition"),
      ("metadata",
        .object [("name", .string (Conventions.resourcePlural ++ "." ++ Conventions.resourceGroup))]),
      ("spec",
        .object
          [("group", Conventions.resourceGroup), ("names", names), ("scope", "Namespaced"),
            ("versions", .array [version])])]

end ResourceDefinition

end Provisioning
