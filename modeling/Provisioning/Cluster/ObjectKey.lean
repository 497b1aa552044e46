import Provisioning.Capability.Basic
import Provisioning.Pod.Basic

/-!
# Keys of objects

The cluster tells its objects apart by namespace and name.  Keys are ordered by namespace first, both
parts by code points; the order is total (`lt_or_eq_or_lt`).
-/

namespace Provisioning

/-- The namespace and the name of an object. -/
@[ext]
structure ObjectKey where
  namespaceName : String
  name : String
  deriving DecidableEq, Repr

namespace ObjectKey

instance : LT ObjectKey where
  lt left right := left.namespaceName < right.namespaceName ∨
    (left.namespaceName = right.namespaceName ∧ left.name < right.name)

instance (left right : ObjectKey) : Decidable (left < right) :=
  inferInstanceAs (Decidable (_ ∨ _))

def text (key : ObjectKey) : String :=
  key.namespaceName ++ "/" ++ key.name

theorem lt_iff {left right : ObjectKey} :
    left < right ↔ left.namespaceName < right.namespaceName ∨
      (left.namespaceName = right.namespaceName ∧ left.name < right.name) :=
  Iff.rfl

@[simp]
theorem lt_irrefl (key : ObjectKey) : ¬ key < key := by
  rw [lt_iff]
  rintro (below | ⟨_, below⟩)
  · exact String.lt_irrefl _ below
  · exact String.lt_irrefl _ below

theorem ne_of_lt {left right : ObjectKey} (below : left < right) : left ≠ right := by
  intro same
  exact lt_irrefl right (same ▸ below)

theorem lt_trans {first second third : ObjectKey} (below : first < second)
    (above : second < third) : first < third := by
  rw [lt_iff] at *
  rcases below with below | ⟨sameBelow, below⟩
  · rcases above with above | ⟨sameAbove, _⟩
    · exact Or.inl (String.lt_trans below above)
    · exact Or.inl (sameAbove ▸ below)
  · rcases above with above | ⟨sameAbove, above⟩
    · exact Or.inl (sameBelow ▸ above)
    · exact Or.inr ⟨sameBelow.trans sameAbove, String.lt_trans below above⟩

private theorem text_lt_or_eq_or_lt (left right : String) :
    left < right ∨ left = right ∨ right < left := by
  grind

/-- Of two different keys one is below the other. -/
theorem lt_or_eq_or_lt (left right : ObjectKey) : left < right ∨ left = right ∨ right < left := by
  simp only [lt_iff]
  rcases text_lt_or_eq_or_lt left.namespaceName right.namespaceName with below | same | above
  · exact Or.inl (Or.inl below)
  · rcases text_lt_or_eq_or_lt left.name right.name with below | sameName | above
    · exact Or.inl (Or.inr ⟨same, below⟩)
    · refine Or.inr (Or.inl ?_)
      cases left
      cases right
      simp_all
    · exact Or.inr (Or.inr (Or.inr ⟨same.symm, above⟩))
  · exact Or.inr (Or.inr (Or.inl above))

end ObjectKey

/-- A kind of object that the cluster keeps. -/
class ClusterObject (α : Type) where
  /-- The metadata of an object. -/
  metadata : α → Metadata

instance : ClusterObject Capability := ⟨Capability.metadata⟩

instance : ClusterObject Pod := ⟨Pod.metadata⟩

namespace ClusterObject

variable {α : Type} [ClusterObject α]

/-- The key of an object: its namespace, empty where there is none, and the name by which it is
known. -/
def key (object : α) : ObjectKey :=
  ⟨(metadata object).home, (metadata object).anyName⟩

def labels (object : α) : Labels :=
  (metadata object).allLabels

end ClusterObject

end Provisioning
