import Provisioning.Cluster.Store
import Provisioning.Locator

/-!
# Located objects

Which objects of a cluster a locator addresses.
-/

namespace Provisioning

open ClusterObject

variable {α : Type} [ClusterObject α]

/-- Whether a locator addresses an object: the one with its name, or any of its namespace that
carries its labels. -/
def Locator.covers (locator : Locator) (object : α) : Bool :=
  match locator with
  | .named namespaceName name => key object == ⟨namespaceName, name⟩
  | .labeled namespaceName selector =>
      (key object).namespaceName == namespaceName && (labels object).carries selector

/-- The objects of a store that a locator addresses, in the order of their keys. -/
def Store.located (store : Store α) (locator : Locator) : List α :=
  store.objects.filter (locator.covers ·)

@[simp]
theorem covers_named_iff {namespaceName name : String} {object : α} :
    (Locator.named namespaceName name).covers object = true ↔
      key object = ⟨namespaceName, name⟩ := by
  rw [Locator.covers, beq_iff_eq]

/-- What a name leads to is what a locator with that name addresses. -/
@[simp]
theorem Store.mem_located_named_iff {store : Store α} {namespaceName name : String} {object : α} :
    object ∈ store.located (.named namespaceName name) ↔
      store.find? ⟨namespaceName, name⟩ = some object := by
  rw [find?_eq_some_iff, located, List.mem_filter, covers_named_iff]

end Provisioning
