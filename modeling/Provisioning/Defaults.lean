import Provisioning.Capability.Vocabulary
import Provisioning.Labels.Basic
import Provisioning.Reference
import Provisioning.Text.Blank

/-!
# The operator's defaults

Names and namespaces that the operator sets for what consumers leave open.  White space around a
value is not part of it, and a blank value is none.
-/

namespace Provisioning

/-- The operator's defaults by key. -/
structure Defaults where
  values : StringMap String := .empty
  deriving DecidableEq, Inhabited

namespace Defaults

/-- The value under a key, without white space around it. -/
def get? (defaults : Defaults) (key : String) : Option String :=
  nonEmpty? ((defaults.values.get? key).map Text.trimmed)

/-- The reference set for a kind of capability: there has to be a name. -/
def referenceFor? (defaults : Defaults) (kind : CapabilityKind) : Option Reference :=
  (defaults.get? s!"default-{kind.hyphenated}-name").map fun name =>
    { namespaceName := defaults.get? s!"default-{kind.hyphenated}-namespace"
      name := some name }

/-! ## What is set -/

/-- The operator sets a value under a key: what is written there but for the white space around it,
unless that is all. -/
def Sets (defaults : Defaults) (key value : String) : Prop :=
  ∃ written, defaults.values.get? key = some written ∧ value = Text.trimmed written ∧ value ≠ ""

theorem Sets.filled {defaults : Defaults} {key value : String}
    (sets : defaults.Sets key value) : value ≠ "" := by
  obtain ⟨_, _, _, filled⟩ := sets
  exact filled

@[simp]
theorem get?_eq_some_iff {defaults : Defaults} {key value : String} :
    defaults.get? key = some value ↔ defaults.Sets key value := by
  rw [get?, nonEmpty?_eq_some_iff, Option.map_eq_some_iff]
  constructor
  · rintro ⟨filled, written, isWritten, rfl⟩
    exact ⟨written, isWritten, rfl, filled⟩
  · rintro ⟨written, isWritten, rfl, filled⟩
    exact ⟨filled, written, isWritten, rfl⟩

@[simp]
theorem get?_eq_none_iff {defaults : Defaults} {key : String} :
    defaults.get? key = none ↔ ∀ value, ¬ defaults.Sets key value := by
  rw [Option.eq_none_iff_forall_ne_some]
  exact forall_congr' fun value => not_congr get?_eq_some_iff

end Defaults

end Provisioning
