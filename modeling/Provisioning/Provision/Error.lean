import Provisioning.Wait.Error

/-!
# Errors of provisioning

Why a requirement was not satisfied.  Requirements that ask for the impossible, capabilities that do
not fit or were given up, and states that contradict themselves need a change before another try
helps; a wait that ended early does not.
-/

namespace Provisioning

/-- Why a requirement was not satisfied. -/
inductive ProvisioningError where
  /-- The capability found is shared in another scope. -/
  | scopeMismatch (capability expected : String) (found : Option String)
  /-- The capability found is implemented by another product. -/
  | implementationMismatch (capability expected : String) (found : Option String)
  /-- A labeled requirement selects nothing. -/
  | missingSelector (capability : String)
  /-- A specified requirement names nothing. -/
  | missingReference (capability : String)
  /-- The requester lives in no namespace. -/
  | missingNamespace (requester : String)
  /-- The controller gave the capability up. -/
  | creationFailed (namespaceName name message : String)
  /-- The capability was not settled before the deadline. -/
  | timedOut (locator : Locator) (elapsed : Duration)
  /-- The wait for the capability lost its events. -/
  | subscriptionFailed (locator : Locator) (message : String)
  /-- The cluster contradicts itself about the capability. -/
  | inconsistent (namespaceName name message : String)
  /-- A collaborator failed. -/
  | failed (failure : Failure)
  deriving DecidableEq, Repr

namespace ProvisioningError

/-- The error of a wait as one of provisioning.  A read that failed is the store's failure, not one
of the wait. -/
def ofWait : WaitError → ProvisioningError
  | .timedOut locator elapsed => .timedOut locator elapsed
  | .subscriptionFailed locator message => .subscriptionFailed locator message
  | .unreadable _ source => .failed source

/-- A label as a message shows it. -/
def labelText (label? : Option String) : String :=
  label?.getD "<none>"

def message : ProvisioningError → String
  | .scopeMismatch capability expected found =>
      s!"{capability} capability has scope '{labelText found}', expected '{expected}'"
  | .implementationMismatch capability expected found =>
      s!"{capability} capability has implementation '{labelText found}', expected '{expected}'"
  | .missingSelector capability =>
      s!"a labeled {capability} requirement needs a non-empty selector"
  | .missingReference capability =>
      s!"a specified {capability} requirement needs a capability reference"
  | .missingNamespace requester => s!"requester '{requester}' has no namespace"
  | .creationFailed namespaceName name message =>
      s!"capability {namespaceName}/{name} failed: {message}"
  | .timedOut locator elapsed =>
      "capability did not become ready: " ++ (WaitError.timedOut locator elapsed).message
  | .subscriptionFailed locator message =>
      (WaitError.subscriptionFailed locator message).message
  | .inconsistent namespaceName name message =>
      s!"capability {namespaceName}/{name} is inconsistent: {message}"
  | .failed failure => failure.message

/-- A short name for the kind of an error, fit for the reason of a status. -/
def kind : ProvisioningError → String
  | .scopeMismatch .. => "ScopeMismatch"
  | .implementationMismatch .. => "ImplementationMismatch"
  | .missingSelector .. => "MissingSelector"
  | .missingReference .. => "MissingSpecifiedReference"
  | .missingNamespace .. => "MissingNamespace"
  | .creationFailed .. => "CreationFailed"
  | .timedOut .. => "TimedOut"
  | .subscriptionFailed .. => "SubscriptionFailed"
  | .inconsistent .. => "Inconsistent"
  | .failed .. => "Internal"

/-- Whether trying the same requirement again can help. -/
def isRetryable : ProvisioningError → Bool
  | .timedOut .. => true
  | .subscriptionFailed .. => true
  | .failed failure => failure.isRetryable
  | _ => false

end ProvisioningError

end Provisioning
