import Provisioning.Json.Record

/-!
# References

A pointer to another object by namespace and name.  An absent namespace means that of whoever holds
the reference, and a reference without a name points at nothing.
-/

namespace Provisioning

def nonEmpty? (text? : Option String) : Option String :=
  text?.filter (· ≠ "")

theorem nonEmpty?_eq_some_iff {text? : Option String} {text : String} :
    nonEmpty? text? = some text ↔ text ≠ "" ∧ text? = some text := by
  rw [nonEmpty?, Option.filter_eq_some_iff, decide_eq_true_eq, and_comm]

/-- A pointer to another object. -/
structure Reference where
  namespaceName : Option String := none
  name : Option String := none
  deriving DecidableEq, Repr, Inhabited

namespace Reference

def qualified (namespaceName name : String) : Reference :=
  ⟨some namespaceName, some name⟩

/-- The name of the target, if there is one. -/
def name? (reference : Reference) : Option String :=
  nonEmpty? reference.name

/-- The namespace of the target, if the reference gives one. -/
def namespaceName? (reference : Reference) : Option String :=
  nonEmpty? reference.namespaceName

def isEmpty (reference : Reference) : Bool :=
  reference.name?.isNone

/-- The target's namespace and name, for a holder in the given namespace. -/
def target? (reference : Reference) (holder : String) : Option (String × String) :=
  reference.name?.map fun name => (reference.namespaceName?.getD holder, name)

/-- The same reference with the holder's namespace where it gives none; nothing where it points at
nothing. -/
def qualifiedIn? (reference : Reference) (holder : String) : Option Reference :=
  (reference.target? holder).map fun target => .qualified target.1 target.2

def text (reference : Reference) : String :=
  match reference.namespaceName?, reference.name? with
  | some namespaceName, some name => namespaceName ++ "/" ++ name
  | none, some name => name
  | _, none => "<none>"

/-! ## JSON -/

/-- The members of a reference as they are read. -/
structure Draft where
  namespaceName : Option (Option String) := none
  name : Option (Option String) := none

/-- The members of a reference, in their order. -/
def fields : List (Json.Field Draft) :=
  [.of "namespace" (·.namespaceName) (fun draft value => { draft with namespaceName := some value })
      (.option .string),
    .of "name" (·.name) (fun draft value => { draft with name := some value })
      (.option .string)]

def decoder : Json.Decoder Reference :=
  .plainRecord "struct ResourceReference" fields {} fun draft =>
    ⟨draft.namespaceName.join, draft.name.join⟩

/-- Writes a reference, without what is absent. -/
def toJson (reference : Reference) : Json :=
  .ofPresent
    [("namespace", reference.namespaceName.map .string),
      ("name", reference.name.map .string)]

end Reference

end Provisioning
