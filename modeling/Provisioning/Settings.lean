import Provisioning.Conventions
import Provisioning.Duration
import Provisioning.Text.Blank
import Provisioning.Text.Count

/-!
# Settings

The operator's settings, each with a default and each from one variable of its own.  Timeouts are
whole seconds; a value that is no such number counts as absent.
-/

namespace Provisioning

/-- The settings of the operator. -/
structure Settings where
  operatorNamespace : String
  defaultsObject : String
  capabilityTimeout : Duration
  podReadinessTimeout : Duration
  podCompletionTimeout : Duration
  podShutdownTimeout : Duration
  deriving DecidableEq, Repr

namespace Settings

/-- A text as it stands, or the default where it is absent or blank. -/
def textOr (default : String) (value? : Option String) : String :=
  match value? with
  | some value => if Text.isAllBlank value then default else value
  | none => default

/-- A number of seconds, white space around it allowed, or the default. -/
def secondsOr (default : Nat) (value? : Option String) : Duration :=
  match value? with
  | some value =>
      .ofSeconds ((Text.readCount (Text.trimChars value.toList)).getD default)
  | none => .ofSeconds default

def ofVariables (setting? : String → Option String) : Settings where
  operatorNamespace := textOr Conventions.operatorNamespace (setting? "TRELLIS_OPERATOR_NAMESPACE")
  defaultsObject := textOr Conventions.defaultsObject (setting? "TRELLIS_DEFAULTS_CONFIGMAP")
  capabilityTimeout := secondsOr 600 (setting? "TRELLIS_CAPABILITY_TIMEOUT_SECONDS")
  podReadinessTimeout := secondsOr 600 (setting? "TRELLIS_POD_READINESS_TIMEOUT_SECONDS")
  podCompletionTimeout := secondsOr 600 (setting? "TRELLIS_POD_COMPLETION_TIMEOUT_SECONDS")
  podShutdownTimeout := secondsOr 120 (setting? "TRELLIS_POD_SHUTDOWN_TIMEOUT_SECONDS")

end Settings

end Provisioning
