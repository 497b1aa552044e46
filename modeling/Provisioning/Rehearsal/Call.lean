import Provisioning.Cluster.ObjectKey
import Provisioning.Wait.Error

/-!
# Calls in a rehearsal

The calls that a rehearsed cluster answers, with what they were about, and their kinds.
-/

namespace Provisioning.Rehearsal

/-- A kind of call. -/
inductive CallKind where
  | get
  | listIn
  | listAll
  | create
  | loadDefaults
  | discover
  | current
  | subscribe
  | list
  | delete
  deriving DecidableEq, Repr

/-- What a call of a kind fails with: where objects are watched, an error of the wait. -/
abbrev CallKind.Trouble : CallKind → Type
  | .current => Locator → WaitError
  | .subscribe => Locator → WaitError
  | _ => Failure

/-- A call to a cluster of objects. -/
inductive Call (α : Type) where
  | get (namespaceName name : String)
  | listIn (namespaceName : String) (labels : Labels)
  | listAll (labels : Labels)
  | create (object : α)
  | loadDefaults
  | discover (namespaceName : String) (kind : CapabilityKind)
  | current (locator : Locator)
  | subscribe (locator : Locator)
  | list (namespaceName : String) (labels : Labels)
  | delete (namespaceName name : String)
  deriving DecidableEq

abbrev Call.kind {α : Type} : Call α → CallKind
  | .get .. => .get
  | .listIn .. => .listIn
  | .listAll _ => .listAll
  | .create _ => .create
  | .loadDefaults => .loadDefaults
  | .discover .. => .discover
  | .current _ => .current
  | .subscribe _ => .subscribe
  | .list .. => .list
  | .delete .. => .delete

end Provisioning.Rehearsal
