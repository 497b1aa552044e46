import Provisioning.Failure
import Provisioning.Locator

/-!
# Errors of a wait

Why a wait ended without an object that satisfies its condition.
-/

namespace Provisioning

/-- Why a wait ended without an object that satisfies its condition. -/
inductive WaitError where
  /-- The deadline passed. -/
  | timedOut (locator : Locator) (elapsed : Duration)
  /-- The stream of events could not be opened, broke, or ended. -/
  | subscriptionFailed (locator : Locator) (message : String)
  /-- The current state could not be read. -/
  | unreadable (locator : Locator) (source : Failure)
  deriving DecidableEq, Repr

namespace WaitError

def message : WaitError → String
  | .timedOut locator elapsed => s!"timed out after {elapsed.text} waiting on {locator.text}"
  | .subscriptionFailed locator message => s!"subscription to {locator.text} failed: {message}"
  | .unreadable locator source => s!"reading {locator.text} failed: {source.message}"

/-- Whether the deadline passed, and nothing failed. -/
def isTimeout : WaitError → Bool
  | .timedOut .. => true
  | _ => false

end WaitError

end Provisioning
