import Provisioning.Proofs.QuietCluster
import Provisioning.Proofs.Validity

/-!
# The scope of a requirement left out

A requirement without a scope is one of namespace scope to validation, naming and building, but its
lookup does not ask for the scope.  So it can come across a capability of another scope that a
requirement with the scope written out passes over (`Lookup.matchesCapability_ofNamespaced_iff`).
-/

namespace Provisioning

open ClusterObject

/-! ## The two requirements -/

namespace Requirement

/-- The requirement without a scope. -/
abbrev unscoped (requirement : Requirement) : Requirement :=
  { requirement with scope := none }

/-- The requirement with the namespace scope written out. -/
abbrev inNamespace (requirement : Requirement) : Requirement :=
  { requirement with scope := some .namespaced }

end Requirement

/-- Whether a capability is labeled as shared within its namespace. -/
def Capability.IsNamespaced (capability : Capability) : Prop :=
  capability.scopeLabel? = some Scope.namespaced.label

namespace Lookup

variable {requester : Requester} {requirement : Requirement} {capability : Capability}
  {store after : Store Capability}

/-- What a requirement without a scope looks up. -/
abbrev ofUnscoped (requester : Requester) (requirement : Requirement) : Lookup :=
  .byLabels (some requester.namespaceName) (sharedLabels requirement.unscoped)

/-- What a requirement of namespace scope looks up. -/
abbrev ofNamespaced (requester : Requester) (requirement : Requirement) : Lookup :=
  .byLabels (some requester.namespaceName) (sharedLabels requirement.inNamespace)

private theorem get?_sharedLabels_inNamespace (name : String) :
    (sharedLabels requirement.inNamespace).get? name =
      if name = Conventions.scopeLabel then some Scope.namespaced.label
      else (sharedLabels requirement.unscoped).get? name := by
  rw [get?_sharedLabels, get?_sharedLabels]
  by_cases isScope : name = Conventions.scopeLabel
  · rw [if_pos isScope, if_pos isScope, Option.map_some]
  · rw [if_neg isScope, if_neg isScope, if_neg isScope]

/-- With the scope written out, a lookup passes over what is of another scope. -/
@[simp]
theorem matchesCapability_ofNamespaced_iff :
    (ofNamespaced requester requirement).matchesCapability capability = true ↔
      (ofUnscoped requester requirement).matchesCapability capability = true ∧
        capability.IsNamespaced := by
  have unasked : (sharedLabels requirement.unscoped).get? Conventions.scopeLabel = none := by
    rw [get?_sharedLabels, if_pos rfl, Option.map_none]
  have carried : capability.labels.carries (sharedLabels requirement.inNamespace) = true ↔
      capability.labels.carries (sharedLabels requirement.unscoped) = true ∧
        capability.IsNamespaced := by
    simp only [Labels.carries_iff, get?_sharedLabels_inNamespace]
    constructor
    · intro all
      refine ⟨?_, all Conventions.scopeLabel _ (if_pos rfl)⟩
      intro name value asked
      have notScope : name ≠ Conventions.scopeLabel := by
        rintro rfl
        rw [unasked] at asked
        cases asked
      exact all name value ((if_neg notScope).trans asked)
    · rintro ⟨all, isNamespaced⟩ name value asked
      by_cases isScope : name = Conventions.scopeLabel
      · rw [if_pos isScope, Option.some.injEq] at asked
        rw [isScope, ← asked]
        exact isNamespaced
      · rw [if_neg isScope] at asked
        exact all name value asked
  simp only [matchesCapability, Bool.and_eq_true, carried, and_assoc]

/-- The first capability that a lookup without a scope finds, if any, is shared within its
namespace. -/
def FindsNamespaced (requester : Requester) (requirement : Requirement)
    (store : Store Capability) : Prop :=
  ∀ found, (ofUnscoped requester requirement).firstIn store = some found → found.IsNamespaced

theorem not_findsNamespaced_iff :
    ¬ FindsNamespaced requester requirement store ↔
      ∃ found, (ofUnscoped requester requirement).firstIn store = some found ∧
        ¬ found.IsNamespaced := by
  simp only [FindsNamespaced, not_forall, exists_prop]

/-- Where it is, the lookup with the scope written out finds the same. -/
theorem FindsNamespaced.firstIn_eq (finds : FindsNamespaced requester requirement store) :
    (ofUnscoped requester requirement).firstIn store =
      (ofNamespaced requester requirement).firstIn store := by
  cases isFirst : (ofUnscoped requester requirement).firstIn store with
  | none =>
      rw [firstIn_eq_none_iff] at isFirst
      refine (firstIn_eq_none_iff.mpr ?_).symm
      intro capability member
      rw [Bool.eq_false_iff]
      intro matched
      have matchedToo := (matchesCapability_ofNamespaced_iff.mp matched).1
      rw [isFirst capability member] at matchedToo
      cases matchedToo
  | some found =>
      obtain ⟨member, matched, notBelow⟩ := firstIn_eq_some_iff.mp isFirst
      refine (firstIn_eq_some_iff.mpr ⟨member,
        matchesCapability_ofNamespaced_iff.mpr ⟨matched, finds found isFirst⟩, ?_⟩).symm
      intro other otherMember otherMatched
      exact notBelow other otherMember (matchesCapability_ofNamespaced_iff.mp otherMatched).1

end Lookup

/-- A capability of another scope is not valid for either requirement. -/
theorem Capability.validate_of_not_isNamespaced {requirement : Requirement}
    {capability : Capability} (shared : requirement.effectiveScope = .namespaced)
    (otherScope : ¬ capability.IsNamespaced) :
    capability.validate requirement =
      .error (.scopeMismatch capability.path Scope.namespaced.label capability.scopeLabel?) := by
  rw [IsNamespaced, ← shared] at otherScope
  rw [validate_of_scopeLabel_ne otherScope, shared]

theorem Capability.Resembles.isNamespaced_iff {left right : Capability}
    (same : left.Resembles right) : left.IsNamespaced ↔ right.IsNamespaced := by
  rw [IsNamespaced, IsNamespaced, scopeLabel?, scopeLabel?, label?, label?, same.2]

namespace Lookup

variable {requester : Requester} {requirement : Requirement} {capability : Capability}
  {store after : Store Capability}

theorem FindsNamespaced.retained_iff (retains : Retains store after) :
    FindsNamespaced requester requirement after ↔
      FindsNamespaced requester requirement store := by
  cases initially : (ofUnscoped requester requirement).firstIn store with
  | none =>
      have missed := retains.firstIn_eq_none initially
      simp only [FindsNamespaced, initially, missed, reduceCtorEq, false_implies, implies_true]
  | some earlier =>
      obtain ⟨present, isPresent, same⟩ := retains.firstIn initially
      simp only [FindsNamespaced, initially, isPresent, Option.some.injEq, forall_eq',
        same.isNamespaced_iff]

theorem FindsNamespaced.put (finds : FindsNamespaced requester requirement store)
    (free : store.find? (key capability) = none) (isNamespaced : capability.IsNamespaced) :
    FindsNamespaced requester requirement (store.put capability) := by
  intro found isFirst
  obtain ⟨member, matched, notBelow⟩ := firstIn_eq_some_iff.mp isFirst
  rcases Store.mem_put_iff.mp member with rfl | ⟨inStore, _⟩
  · exact isNamespaced
  · refine finds found (firstIn_eq_some_iff.mpr ⟨inStore, matched, ?_⟩)
    intro other otherMember otherMatched
    have otherThere : other ∈ (store.put capability).objects := Store.mem_put_iff.mpr
      (Or.inr ⟨otherMember, Store.find?_eq_none_iff.mp free other otherMember⟩)
    exact notBelow other otherThere otherMatched

@[simp]
theorem plan_unscoped :
    plan requester requirement.unscoped = .ok (ofUnscoped requester requirement) :=
  rfl

@[simp]
theorem plan_inNamespace :
    plan requester requirement.inNamespace = .ok (ofNamespaced requester requirement) :=
  rfl

/-- With the scope written out, whatever is found is valid. -/
theorem valid_of_ofNamespaced {capability : Capability}
    (matched : (ofNamespaced requester requirement).matchesCapability capability = true) :
    capability.validate requirement.inNamespace = .ok () := by
  have pinned : requirement.inNamespace.PinnedBy (sharedLabels requirement.inNamespace) :=
    Requirement.pinnedBy_sharedLabels_iff.mpr (Option.some_ne_none _)
  exact valid_of_pinnedBy pinned matched

end Lookup

namespace Placement

variable {requester : Requester} {requirement : Requirement} {defaults : Defaults}
  {operatorNamespace : String} {serial otherSerial : Serial} {built : Capability}

/-- Without a scope the same is built, whatever is drawn. -/
theorem build_unscoped :
    build requester requirement.unscoped defaults operatorNamespace serial =
      build requester requirement.inNamespace defaults operatorNamespace otherSerial :=
  rfl

theorem key_of_build_inNamespace
    (placed : build requester requirement.inNamespace defaults operatorNamespace serial =
      .ok built) :
    key built = ⟨requester.namespaceName, baseName requirement ++ "-in-namespace"⟩ := by
  have atPlace : Except.ok (requester.namespaceName, baseName requirement ++ "-in-namespace") =
      Except.ok (built.home, built.name) := key_of_build placed
  rw [Except.ok.injEq, Prod.mk.injEq] at atPlace
  exact ObjectKey.ext atPlace.1.symm atPlace.2.symm

theorem isNamespaced_of_build
    (placed : build requester requirement.inNamespace defaults operatorNamespace serial =
      .ok built) : built.IsNamespaced := by
  rw [Capability.IsNamespaced, Capability.scopeLabel?, Capability.label?, labels_of_build placed]
  exact get?_scopeLabel_labels requirement.inNamespace

end Placement

end Provisioning
