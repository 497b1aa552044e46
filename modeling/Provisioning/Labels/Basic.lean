import Provisioning.StringMap.Basic

/-!
# Labels

Objects carry labels, and lookups ask for objects that carry certain labels.  Main statement:
`carries_iff`, what it means to carry all the labels asked for.
-/

namespace Provisioning

/-- The labels of an object, or those that a lookup asks for. -/
abbrev Labels := StringMap String

namespace Labels

/-- Whether an object with these labels carries every label in `wanted`. -/
def carries (actual wanted : Labels) : Bool :=
  wanted.entries.all fun entry => actual.get? entry.1 == some entry.2

/-- To carry labels is to have each of them with the value asked for. -/
theorem carries_iff {actual wanted : Labels} :
    actual.carries wanted = true ↔
      ∀ key value, wanted.get? key = some value → actual.get? key = some value := by
  unfold carries
  rw [List.all_eq_true]
  constructor
  · intro all key value asked
    have := all (key, value) (StringMap.get?_eq_some_iff.mp asked)
    simpa using this
  · intro all entry member
    have := all entry.1 entry.2 (StringMap.get?_eq_some_iff.mpr member)
    simp [this]

@[simp]
theorem carries_self (labels : Labels) : labels.carries labels = true :=
  carries_iff.mpr fun _ _ asked => asked

/-- Without labels an object carries none that are asked for. -/
@[simp]
theorem empty_carries (wanted : Labels) :
    carries .empty wanted = wanted.isEmpty := by
  unfold carries StringMap.isEmpty
  cases wanted.entries with
  | nil => rfl
  | cons head tail => simp

end Labels

end Provisioning
