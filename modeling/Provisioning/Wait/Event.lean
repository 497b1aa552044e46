/-!
# Watch events

What a subscription delivers about the objects that it watches.
-/

namespace Provisioning

/-- A change of a watched object. -/
inductive WatchEvent (α : Type) where
  /-- The object was created or modified. -/
  | applied (object : α)
  /-- The object was deleted; this is its last known state. -/
  | deleted (object : α)
  deriving DecidableEq, Repr

namespace WatchEvent

variable {α : Type}

def object : WatchEvent α → α
  | .applied object => object
  | .deleted object => object

end WatchEvent

end Provisioning
