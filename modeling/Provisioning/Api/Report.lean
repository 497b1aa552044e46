import Provisioning.Locator
import Provisioning.Wait.Error
import Provisioning.Wait.Event

/-!
# Reports of a watch

What a watch of a collection says about it, and what a subscriber gets of that.
-/

namespace Provisioning.Api

/-- What a watch reports about the objects that it covers. -/
inductive Report (α : Type) where
  /-- The objects that there are will be listed. -/
  | listing
  /-- One of the objects that there are. -/
  | listed (object : α)
  /-- All of them were listed. -/
  | complete
  /-- An object was created or modified. -/
  | applied (object : α)
  /-- An object was deleted, or is not covered any more. -/
  | deleted (object : α)
  deriving DecidableEq, Repr

namespace Report

variable {α : Type}

/-- The event for subscribers, if any: to them an object that is listed has been applied. -/
def event? : Report α → Option (WatchEvent α)
  | .listing => none
  | .listed object => some (.applied object)
  | .complete => none
  | .applied object => some (.applied object)
  | .deleted object => some (.deleted object)

/-- What a subscriber gets of a report, or of the text of an error. -/
def delivered? (locator : Locator) :
    Except String (Report α) → Option (Except WaitError (WatchEvent α))
  | .ok report => report.event?.map .ok
  | .error text => some (.error (.subscriptionFailed locator text))

end Report

end Provisioning.Api
