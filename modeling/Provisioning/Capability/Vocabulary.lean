import Provisioning.Json.Decoder

/-!
# The vocabulary of capabilities

The closed sets of words in which requirements and capabilities are described: kinds,
implementations, scopes, strategies and phases.  Each word has one written form, the same in JSON
and in labels.
-/

namespace Provisioning

/-- The kinds of capability that a resource can depend on. -/
inductive CapabilityKind where
  /-- A relational database management system. -/
  | dbms
  /-- A single sign-on identity provider. -/
  | sso
  deriving DecidableEq, Repr

/-- The products that can implement a capability. -/
inductive Implementation where
  | mysql
  | postgresql
  | oracle
  | keycloak
  | redhatSso
  deriving DecidableEq, Repr

/-- How widely a capability is shared. -/
inductive Scope where
  /-- Owned by one consumer and named after it. -/
  | dedicated
  /-- A capability named explicitly. -/
  | specified
  /-- Any capability with the labels asked for. -/
  | labeled
  /-- Shared by the consumers of a namespace. -/
  | namespaced
  /-- Shared by all consumers of the cluster. -/
  | cluster
  deriving DecidableEq, Repr

/-- How the controller of a capability should bring it about. -/
inductive Strategy where
  | useExternal
  | deployDirectly
  | delegateToOperator
  deriving DecidableEq, Repr

/-- How far the provisioning of a capability has come. -/
inductive Phase where
  /-- Requested, and not provisioned yet. -/
  | requested
  /-- Provisioned and usable. -/
  | successful
  /-- Given up by the capability's controller. -/
  | failed
  deriving DecidableEq, Repr

/-! ## Written forms -/

namespace CapabilityKind

def all : List CapabilityKind := [.dbms, .sso]

def label : CapabilityKind → String
  | .dbms => "dbms"
  | .sso => "sso"

/-- The form of a kind inside the name of an object. -/
def hyphenated (kind : CapabilityKind) : String := kind.label

/-- The ending of the names of dedicated capabilities of a kind. -/
def ending : CapabilityKind → String
  | .dbms => "db"
  | .sso => "sso"

def decoder : Json.Decoder CapabilityKind :=
  .variant (all.map fun kind => (kind.label, kind))

end CapabilityKind

namespace Implementation

def all : List Implementation := [.mysql, .postgresql, .oracle, .keycloak, .redhatSso]

def label : Implementation → String
  | .mysql => "mysql"
  | .postgresql => "postgresql"
  | .oracle => "oracle"
  | .keycloak => "keycloak"
  | .redhatSso => "redhatSso"

/-- The form of an implementation inside the name of an object. -/
def hyphenated : Implementation → String
  | .redhatSso => "redhat-sso"
  | other => other.label

def decoder : Json.Decoder Implementation :=
  .variant (all.map fun implementation => (implementation.label, implementation))

end Implementation

namespace Scope

def all : List Scope := [.dedicated, .specified, .labeled, .namespaced, .cluster]

def label : Scope → String
  | .dedicated => "dedicated"
  | .specified => "specified"
  | .labeled => "labeled"
  | .namespaced => "namespace"
  | .cluster => "cluster"

def decoder : Json.Decoder Scope :=
  .variant (all.map fun scope => (scope.label, scope))

end Scope

namespace Strategy

def all : List Strategy := [.useExternal, .deployDirectly, .delegateToOperator]

def label : Strategy → String
  | .useExternal => "useExternal"
  | .deployDirectly => "deployDirectly"
  | .delegateToOperator => "delegateToOperator"

def decoder : Json.Decoder Strategy :=
  .variant (all.map fun strategy => (strategy.label, strategy))

end Strategy

namespace Phase

def all : List Phase := [.requested, .successful, .failed]

def label : Phase → String
  | .requested => "requested"
  | .successful => "successful"
  | .failed => "failed"

/-- A terminal phase is final. -/
def isTerminal : Phase → Bool
  | .requested => false
  | .successful => true
  | .failed => true

def decoder : Json.Decoder Phase :=
  .variant (all.map fun phase => (phase.label, phase))

end Phase

end Provisioning
