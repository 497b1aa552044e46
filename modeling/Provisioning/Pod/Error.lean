import Provisioning.Wait.Error

/-!
# Errors of pod operations

Why an operation on pods did not succeed.
-/

namespace Provisioning

/-- Why an operation on pods did not succeed. -/
inductive PodError where
  | wait (error : WaitError)
  | failed (failure : Failure)
  /-- The pod lives in no namespace. -/
  | missingNamespace (pod : String)
  deriving DecidableEq, Repr

namespace PodError

def message : PodError → String
  | .wait error => error.message
  | .failed failure => failure.message
  | .missingNamespace pod => s!"pod '{pod}' has no namespace"

end PodError

end Provisioning
