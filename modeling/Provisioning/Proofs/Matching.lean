import Provisioning.Cluster.Store
import Provisioning.Proofs.Serving
import Provisioning.Provision.Basic

/-!
# What a lookup finds and what is built for it

The objects of a store that a lookup asks for, and the capability that is built where there is
none.  Main statements: what is built is valid for its requirement (`validate_build`), and it is what
the lookup of the requirement asks for, unless a selector disagrees with the engine's labels
(`matchesCapability_build_iff`).
-/

namespace Provisioning

open ClusterObject

/-! ## Lookups -/

namespace Lookup

@[simp]
theorem matchesCapability_byName_iff {namespaceName name : String} {capability : Capability} :
    (byName namespaceName name).matchesCapability capability = true ↔
      key capability = ⟨namespaceName, name⟩ := by
  rw [matchesCapability, Bool.and_eq_true, beq_iff_eq, beq_iff_eq, ObjectKey.ext_iff]
  exact Iff.rfl

/-- The engine asks for the kind and, where the requirement names them, for the scope and the
implementation. -/
theorem get?_sharedLabels (requirement : Requirement) (name : String) :
    (sharedLabels requirement).get? name =
      if name = Conventions.scopeLabel then requirement.scope.map Scope.label
      else if name = Conventions.implementationLabel then
        requirement.implementation.map Implementation.label
      else if name = Conventions.kindLabel then some requirement.capability.label
      else none := by
  have kindNotScope := Conventions.kindLabel_ne_scopeLabel
  have kindNotImplementation := Conventions.kindLabel_ne_implementationLabel
  have scopeNotImplementation := Conventions.scopeLabel_ne_implementationLabel
  cases implemented : requirement.implementation <;> cases named : requirement.scope <;>
    simp only [sharedLabels, implemented, named] <;>
    grind

/-- A specified requirement leads to where its reference points, from the requester's namespace. -/
theorem specifiedTarget_eq_ok_iff {requester : Requester} {requirement : Requirement}
    {namespaceName name : String} :
    specifiedTarget requester requirement = .ok (namespaceName, name) ↔
      ∃ reference, requirement.specified = some reference ∧ reference.name = some name ∧
        name ≠ "" ∧ namespaceName ≠ "" ∧
        namespaceName = (nonEmpty? reference.namespaceName).getD requester.namespaceName := by
  have isTarget : specifiedTarget requester requirement = .ok (namespaceName, name) ↔
      requirement.specified.bind (·.target? requester.namespaceName) =
        some (namespaceName, name) ∧ namespaceName ≠ "" := by
    unfold specifiedTarget
    cases requirement.specified.bind (·.target? requester.namespaceName) with
    | none => simp
    | some target =>
        obtain ⟨otherNamespace, otherName⟩ := target
        by_cases homeless : otherNamespace = ""
        · simp only [homeless, if_true, reduceCtorEq, false_iff, not_and, Option.some.injEq,
            Prod.mk.injEq]
          rintro ⟨rfl, rfl⟩ filled
          exact filled rfl
        · simp only [homeless, if_false, Except.ok.injEq, Option.some.injEq, iff_self_and,
            Prod.mk.injEq]
          rintro ⟨rfl, rfl⟩
          exact homeless
  rw [isTarget, Option.bind_eq_some_iff]
  simp only [Reference.target?, Option.map_eq_some_iff, Reference.name?, nonEmpty?_eq_some_iff,
    Prod.mk.injEq]
  constructor
  · rintro ⟨⟨reference, specified, _, ⟨filled, named⟩, isNamespace, rfl⟩, homed⟩
    exact ⟨reference, specified, named, filled, homed, isNamespace.symm⟩
  · rintro ⟨reference, specified, named, filled, homed, isNamespace⟩
    exact ⟨⟨reference, specified, _, ⟨filled, named⟩, isNamespace.symm, rfl⟩, homed⟩

/-- The scopes in which a capability is looked up by labels. -/
theorem plan_eq_byLabels_iff {requester : Requester} {requirement : Requirement}
    {namespaceName? : Option String} {labels : Labels} :
    plan requester requirement = .ok (byLabels namespaceName? labels) ↔
      (requirement.effectiveScope = .labeled ∧ requirement.selector.isEmpty = false ∧
          namespaceName? = none ∧ labels = requirement.selector) ∨
        (requirement.effectiveScope = .namespaced ∧
          namespaceName? = some requester.namespaceName ∧ labels = sharedLabels requirement) ∨
        (requirement.effectiveScope = .cluster ∧
          namespaceName? = none ∧ labels = sharedLabels requirement) := by
  unfold plan
  cases scope : requirement.effectiveScope with
  | dedicated => simp
  | specified =>
      cases specifiedTarget requester requirement with
      | error error => simp [bind, Except.bind]
      | ok target => simp [bind, Except.bind, pure, Except.pure]
  | labeled =>
      cases empty : requirement.selector.isEmpty with
      | true => simp
      | false => simp [eq_comm (a := labels), eq_comm (a := namespaceName?)]
  | namespaced => simp [eq_comm (a := labels), eq_comm (a := namespaceName?)]
  | cluster => simp [eq_comm (a := labels), eq_comm (a := namespaceName?)]

/-- The scopes in which a capability is looked up by its name. -/
theorem plan_eq_byName_iff {requester : Requester} {requirement : Requirement}
    {namespaceName name : String} :
    plan requester requirement = .ok (byName namespaceName name) ↔
      (requirement.effectiveScope = .dedicated ∧ namespaceName = requester.namespaceName ∧
          name = dedicatedName requester requirement) ∨
        (requirement.effectiveScope = .specified ∧
          specifiedTarget requester requirement = .ok (namespaceName, name)) := by
  unfold plan
  cases scope : requirement.effectiveScope with
  | dedicated => simp [eq_comm (a := namespaceName), eq_comm (a := name)]
  | specified =>
      cases specifiedTarget requester requirement with
      | error error => simp [bind, Except.bind]
      | ok target => simp [bind, Except.bind, pure, Except.pure, Prod.ext_iff]
  | labeled =>
      cases requirement.selector.isEmpty with
      | true => simp
      | false => simp
  | namespaced => simp
  | cluster => simp

/-- Whether a capability is asked for depends on its key and its labels. -/
theorem matchesCapability_congr {lookup : Lookup} {left right : Capability}
    (sameKey : key left = key right) (sameLabels : left.labels = right.labels) :
    lookup.matchesCapability left = lookup.matchesCapability right := by
  have sameHome : left.home = right.home := congrArg ObjectKey.namespaceName sameKey
  have sameName : left.name = right.name := congrArg ObjectKey.name sameKey
  cases lookup with
  | byName namespaceName name => simp only [matchesCapability, sameHome, sameName]
  | byLabels namespaceName? labels =>
      cases namespaceName? with
      | none => simp only [matchesCapability, sameLabels]
      | some namespaceName => simp only [matchesCapability, sameHome, sameLabels]

end Lookup

/-- Validity depends on the labels of a capability. -/
theorem Capability.validate_congr {requirement : Requirement} {left right : Capability}
    (sameLabels : left.labels = right.labels) :
    left.validate requirement = .ok () ↔ right.validate requirement = .ok () := by
  have sameLabel : ∀ name, left.label? name = right.label? name := by
    intro name
    rw [Capability.label?, Capability.label?, sameLabels]
  rw [validate_eq_ok_iff, validate_eq_ok_iff, scopeLabel?, scopeLabel?, implementationLabel?,
    implementationLabel?, sameLabel, sameLabel]

/-! ## The first of several -/

namespace Provision

@[simp]
theorem first?_eq_none_iff {capabilities : List Capability} :
    first? capabilities = none ↔ capabilities = [] := by
  cases capabilities with
  | nil => simp [first?]
  | cons head tail =>
      simp only [first?, reduceCtorEq, iff_false]
      cases first? tail with
      | none => simp
      | some other =>
          simp only
          split <;> simp

theorem mem_of_first? {capabilities : List Capability} {capability : Capability}
    (found : first? capabilities = some capability) : capability ∈ capabilities := by
  induction capabilities with
  | nil => cases found
  | cons head tail inductionHypothesis =>
      rw [first?] at found
      cases rest : first? tail with
      | none =>
          simp only [rest, Option.some.injEq] at found
          exact found ▸ List.mem_cons_self
      | some other =>
          simp only [rest] at found
          split at found
          · rw [Option.some.injEq] at found
            subst found
            exact List.mem_cons_of_mem head (inductionHypothesis rest)
          · rw [Option.some.injEq] at found
            exact found ▸ List.mem_cons_self

/-- The first of several has no other one below it. -/
theorem first?_least {capabilities : List Capability} {capability : Capability}
    (found : first? capabilities = some capability) :
    ∀ other ∈ capabilities, ¬ key other < key capability := by
  induction capabilities generalizing capability with
  | nil => cases found
  | cons head tail inductionHypothesis =>
      intro other member below
      rw [first?] at found
      cases rest : first? tail with
      | none =>
          simp only [rest, Option.some.injEq] at found
          subst found
          rw [first?_eq_none_iff.mp rest, List.mem_singleton] at member
          exact ObjectKey.lt_irrefl _ (member ▸ below)
      | some least =>
          have leastBelow := inductionHypothesis rest
          simp only [rest] at found
          split at found
          · rename_i leastBelowHead
            rw [Option.some.injEq] at found
            subst found
            rcases List.mem_cons.mp member with rfl | inTail
            · exact ObjectKey.lt_irrefl _ (ObjectKey.lt_trans below leastBelowHead)
            · exact leastBelow other inTail below
          · rename_i notBelow
            rw [Option.some.injEq] at found
            subst found
            rcases List.mem_cons.mp member with rfl | inTail
            · exact ObjectKey.lt_irrefl _ below
            -- The head is at or below the least of the others.
            · rcases ObjectKey.lt_or_eq_or_lt (key head) (key least) with lower | same | higher
              · exact leastBelow other inTail (ObjectKey.lt_trans below lower)
              · exact leastBelow other inTail (same ▸ below)
              · exact notBelow higher

theorem first?_eq_some_of_least {capabilities : List Capability} {capability : Capability}
    (member : capability ∈ capabilities)
    (least : ∀ other ∈ capabilities, other = capability ∨ key capability < key other) :
    first? capabilities = some capability := by
  cases found : first? capabilities with
  | none =>
      rw [first?_eq_none_iff.mp found] at member
      cases member
  | some chosen =>
      rcases least chosen (mem_of_first? found) with same | below
      · rw [same]
      · exact absurd below (first?_least found capability member)

/-- The first of the objects of a store is the first in whatever order they are listed. -/
theorem first?_of_perm {store : Store Capability} {wanted : Capability → Bool}
    {objects : List Capability} (listed : objects.Perm (store.objects.filter wanted)) :
    first? objects = first? (store.objects.filter wanted) := by
  cases found : first? (store.objects.filter wanted) with
  | none =>
      rw [first?_eq_none_iff.mp found] at listed
      rw [List.Perm.eq_nil listed]
      rfl
  | some capability =>
      have chosen := mem_of_first? found
      apply first?_eq_some_of_least (listed.mem_iff.mpr chosen)
      intro other member
      have otherListed := listed.mem_iff.mp member
      -- The keys in a store are distinct, so that the least object is the only one.
      rcases ObjectKey.lt_or_eq_or_lt (key capability) (key other) with below | same | above
      · exact Or.inr below
      · exact Or.inl (Store.eq_of_key_eq (List.mem_filter.mp otherListed).1
          (List.mem_filter.mp chosen).1 same.symm)
      · exact absurd above (first?_least found other otherListed)

end Provision

/-- What a lookup finds in a store that nobody changes. -/
def Lookup.firstIn (lookup : Lookup) (store : Store Capability) : Option Capability :=
  Provision.first? (store.objects.filter lookup.matchesCapability)

namespace Lookup

theorem firstIn_eq_none_iff {lookup : Lookup} {store : Store Capability} :
    lookup.firstIn store = none ↔
      ∀ capability ∈ store.objects, lookup.matchesCapability capability = false := by
  rw [firstIn, Provision.first?_eq_none_iff, List.filter_eq_nil_iff]
  simp only [Bool.not_eq_true]

theorem firstIn_eq_some_of_least {lookup : Lookup} {store : Store Capability}
    {capability : Capability} (member : capability ∈ store.objects)
    (matched : lookup.matchesCapability capability = true)
    (least : ∀ other ∈ store.objects, lookup.matchesCapability other = true →
      other = capability ∨ key capability < key other) :
    lookup.firstIn store = some capability := by
  apply Provision.first?_eq_some_of_least (List.mem_filter.mpr ⟨member, matched⟩)
  intro other listed
  exact least other (List.mem_filter.mp listed).1 (List.mem_filter.mp listed).2

/-- A lookup finds the capability that it asks for and that has no other such one below it. -/
theorem firstIn_eq_some_iff {lookup : Lookup} {store : Store Capability}
    {capability : Capability} :
    lookup.firstIn store = some capability ↔
      capability ∈ store.objects ∧ lookup.matchesCapability capability = true ∧
        ∀ other ∈ store.objects, lookup.matchesCapability other = true →
          ¬ key other < key capability := by
  constructor
  · intro isFirst
    obtain ⟨member, matched⟩ := List.mem_filter.mp (Provision.mem_of_first? isFirst)
    refine ⟨member, matched, ?_⟩
    intro other otherMember otherMatched
    exact Provision.first?_least isFirst other (List.mem_filter.mpr ⟨otherMember, otherMatched⟩)
  · rintro ⟨member, matched, notBelow⟩
    apply firstIn_eq_some_of_least member matched
    intro other otherMember otherMatched
    rcases ObjectKey.lt_or_eq_or_lt (key capability) (key other) with below | sameKey | above
    · exact Or.inr below
    · exact Or.inl (Store.eq_of_key_eq otherMember member sameKey.symm)
    · exact absurd above (notBelow other otherMember otherMatched)

/-- What a lookup finds first is anything that it asks for, or comes before it. -/
theorem exists_firstIn {lookup : Lookup} {store : Store Capability} {capability : Capability}
    (member : capability ∈ store.objects) (matched : lookup.matchesCapability capability = true) :
    ∃ first, lookup.firstIn store = some first ∧
      (first = capability ∨ key first < key capability) := by
  cases isFirst : lookup.firstIn store with
  | none =>
      have missed := firstIn_eq_none_iff.mp isFirst capability member
      rw [matched] at missed
      cases missed
  | some first =>
      obtain ⟨firstMember, _, notBelow⟩ := firstIn_eq_some_iff.mp isFirst
      refine ⟨first, rfl, ?_⟩
      rcases ObjectKey.lt_or_eq_or_lt (key first) (key capability) with before | same | after
      · exact .inr before
      · exact .inl (Store.eq_of_key_eq firstMember member same)
      · exact absurd after (notBelow capability member matched)

/-- What is put below all the others is found first. -/
theorem firstIn_put_of_below {lookup : Lookup} {store : Store Capability} {added : Capability}
    (matched : lookup.matchesCapability added = true)
    (below : ∀ other ∈ store.objects, key added < key other) :
    lookup.firstIn (store.put added) = some added := by
  apply firstIn_eq_some_of_least Store.mem_put_self matched
  intro other member _
  rcases Store.mem_put_iff.mp member with isAdded | ⟨inStore, _⟩
  · exact Or.inl isAdded
  · exact Or.inr (below other inStore)

/-- A lookup by name is the look at one key. -/
@[simp]
theorem firstIn_byName (store : Store Capability) (namespaceName name : String) :
    (byName namespaceName name).firstIn store = store.find? ⟨namespaceName, name⟩ := by
  cases found : store.find? ⟨namespaceName, name⟩ with
  | none =>
      rw [firstIn_eq_none_iff]
      intro capability member
      rw [Bool.eq_false_iff]
      intro matched
      have there := Store.find?_eq_some_iff.mpr ⟨member, matchesCapability_byName_iff.mp matched⟩
      rw [found] at there
      cases there
  | some capability =>
      obtain ⟨member, sameKey⟩ := Store.find?_eq_some_iff.mp found
      apply firstIn_eq_some_of_least member (matchesCapability_byName_iff.mpr sameKey)
      intro other otherMember matched
      have otherKey := matchesCapability_byName_iff.mp matched
      exact Or.inl (Store.eq_of_key_eq otherMember member (otherKey.trans sameKey.symm))

end Lookup

/-! ## What is built -/

namespace Placement

variable {requester : Requester} {requirement : Requirement} {defaults : Defaults}
  {operatorNamespace : String} {serial : Serial} {capability : Capability}

theorem build_eq_ok_iff :
    build requester requirement defaults operatorNamespace serial = .ok capability ↔
      ∃ namespaceName name,
        place requester requirement defaults operatorNamespace serial =
            .ok (namespaceName, name) ∧
          capability =
            { metadata :=
                { name := some name
                  namespaceName := some namespaceName
                  labels := some (labels requirement) }
              spec := { requirement with scope := some requirement.effectiveScope } } := by
  unfold build
  cases place requester requirement defaults operatorNamespace serial with
  | error error => simp [bind, Except.bind]
  | ok target =>
      obtain ⟨namespaceName, name⟩ := target
      simp only [bind, Except.bind, pure, Except.pure, Except.ok.injEq, Prod.mk.injEq]
      constructor
      · intro equality
        exact ⟨namespaceName, name, ⟨rfl, rfl⟩, equality.symm⟩
      · rintro ⟨_, _, ⟨rfl, rfl⟩, equality⟩
        exact equality.symm

theorem labels_of_build
    (built : build requester requirement defaults operatorNamespace serial = .ok capability) :
    capability.labels = labels requirement := by
  obtain ⟨_, _, _, rfl⟩ := build_eq_ok_iff.mp built
  rfl

theorem status_of_build
    (built : build requester requirement defaults operatorNamespace serial = .ok capability) :
    capability.status = none := by
  obtain ⟨_, _, _, rfl⟩ := build_eq_ok_iff.mp built
  rfl

theorem key_of_build
    (built : build requester requirement defaults operatorNamespace serial = .ok capability) :
    place requester requirement defaults operatorNamespace serial =
      .ok (capability.home, capability.name) := by
  obtain ⟨_, _, placed, rfl⟩ := build_eq_ok_iff.mp built
  exact placed

/-- What the engine writes under a label key, whatever the selector says. -/
def engineLabel? (requirement : Requirement) (name : String) : Option String :=
  if name = Conventions.kindLabel then some requirement.capability.label
  else if name = Conventions.scopeLabel then some requirement.effectiveScope.label
  else if name = Conventions.implementationLabel then
    requirement.implementation.map Implementation.label
  else none

/-- The labels are the engine's and, in the labeled scope, what the selector says besides. -/
theorem get?_labels (requirement : Requirement) (name : String) :
    (labels requirement).get? name =
      (engineLabel? requirement name).or
        (if requirement.effectiveScope = .labeled then requirement.selector.get? name
        else none) := by
  have kindNotScope := Conventions.kindLabel_ne_scopeLabel
  have kindNotImplementation := Conventions.kindLabel_ne_implementationLabel
  have scopeNotImplementation := Conventions.scopeLabel_ne_implementationLabel
  have selected : (if requirement.effectiveScope = .labeled then requirement.selector
      else .empty).get? name =
      if requirement.effectiveScope = .labeled then requirement.selector.get? name else none := by
    by_cases labeled : requirement.effectiveScope = .labeled
    · rw [if_pos labeled, if_pos labeled]
    · rw [if_neg labeled, if_neg labeled]
      rfl
  cases implemented : requirement.implementation with
  | none =>
      simp only [labels, implemented]
      grind [engineLabel?]
  | some implementation =>
      simp only [labels, implemented]
      grind [engineLabel?]

@[simp]
theorem engineLabel?_scopeLabel (requirement : Requirement) :
    engineLabel? requirement Conventions.scopeLabel = some requirement.effectiveScope.label := by
  rw [engineLabel?, if_neg Conventions.kindLabel_ne_scopeLabel.symm, if_pos rfl]

@[simp]
theorem engineLabel?_implementationLabel (requirement : Requirement) :
    engineLabel? requirement Conventions.implementationLabel =
      requirement.implementation.map Implementation.label := by
  rw [engineLabel?, if_neg Conventions.kindLabel_ne_implementationLabel.symm,
    if_neg Conventions.scopeLabel_ne_implementationLabel.symm, if_pos rfl]

/-- The scope label is the effective scope, whatever the selector says. -/
@[simp]
theorem get?_scopeLabel_labels (requirement : Requirement) :
    (labels requirement).get? Conventions.scopeLabel = some requirement.effectiveScope.label := by
  simp [get?_labels]

theorem get?_implementationLabel_labels {implementation : Implementation}
    (required : requirement.implementation = some implementation) :
    (labels requirement).get? Conventions.implementationLabel = some implementation.label := by
  rw [get?_labels, engineLabel?_implementationLabel, required, Option.map_some, Option.some_or]

@[simp]
theorem get?_kindLabel_labels (requirement : Requirement) :
    (labels requirement).get? Conventions.kindLabel = some requirement.capability.label := by
  rw [get?_labels, engineLabel?, if_pos rfl, Option.some_or]

/-- What is built is valid for its requirement. -/
theorem validate_build
    (built : build requester requirement defaults operatorNamespace serial = .ok capability) :
    capability.validate requirement = .ok () := by
  rw [Capability.validate_eq_ok_iff, Capability.scopeLabel?, Capability.implementationLabel?,
    Capability.label?, Capability.label?, labels_of_build built]
  refine ⟨get?_scopeLabel_labels requirement, ?_⟩
  intro implementation required
  exact get?_implementationLabel_labels required

/-- A label that the engine asks for is one that it writes. -/
@[simp]
theorem carries_sharedLabels (requirement : Requirement) :
    (labels requirement).carries (Lookup.sharedLabels requirement) = true := by
  rw [Labels.carries_iff]
  intro name value asked
  rw [Lookup.get?_sharedLabels] at asked
  split at asked
  · rename_i isScope
    obtain ⟨scope, named, rfl⟩ := Option.map_eq_some_iff.mp asked
    rw [isScope, get?_scopeLabel_labels, Requirement.effectiveScope, named, Option.getD_some]
  · split at asked
    · rename_i _ isImplementation
      obtain ⟨implementation, named, rfl⟩ := Option.map_eq_some_iff.mp asked
      rw [isImplementation, get?_implementationLabel_labels named]
    · split at asked
      · rename_i _ _ isKind
        rw [isKind, get?_kindLabel_labels, ← asked]
      · cases asked

/-- Outside the labeled scope, what is built is what the lookup of the requirement asks for. -/
theorem matchesCapability_build {lookup : Lookup}
    (planned : Lookup.plan requester requirement = .ok lookup)
    (built : build requester requirement defaults operatorNamespace serial = .ok capability)
    (unlabeled : requirement.effectiveScope ≠ .labeled) :
    lookup.matchesCapability capability = true := by
  have placed := key_of_build built
  have carried := labels_of_build built ▸ carries_sharedLabels requirement
  unfold Lookup.plan at planned
  unfold place at placed
  cases scope : requirement.effectiveScope with
  | dedicated =>
      simp only [scope, Except.ok.injEq, Prod.mk.injEq] at planned placed
      subst planned
      simp [Lookup.matchesCapability, placed]
  | specified =>
      simp only [scope] at planned placed
      rw [placed] at planned
      cases planned
      simp [Lookup.matchesCapability]
  | labeled => exact absurd scope unlabeled
  | namespaced =>
      simp only [scope, Except.ok.injEq, Prod.mk.injEq] at planned placed
      subst planned
      simp [Lookup.matchesCapability, placed, carried]
  | cluster =>
      simp only [scope, Except.ok.injEq] at planned
      subst planned
      exact carried

end Placement

/-! ## Selectors and the engine's labels -/

/-- The selector asks for nothing else where the engine writes labels of its own. -/
def Requirement.SelectorAgrees (requirement : Requirement) : Prop :=
  ∀ name value written, requirement.selector.get? name = some value →
    Placement.engineLabel? requirement name = some written → value = written

namespace Placement

variable {requester : Requester} {requirement : Requirement} {defaults : Defaults}
  {operatorNamespace : String} {serial : Serial} {capability : Capability}

theorem engineLabel?_eq_none {name : String} (foreign : name ∉ Conventions.engineLabels) :
    engineLabel? requirement name = none := by
  simp only [Conventions.engineLabels, List.mem_cons, List.not_mem_nil, or_false, not_or] at foreign
  obtain ⟨notKind, notScope, notImplementation⟩ := foreign
  rw [engineLabel?, if_neg notKind, if_neg notScope, if_neg notImplementation]

/-- A selector that names no label of the engine agrees with it. -/
theorem selectorAgrees_of_plain
    (plain : ∀ name ∈ Conventions.engineLabels, requirement.selector.get? name = none) :
    requirement.SelectorAgrees := by
  intro name value written selected writes
  have foreign : name ∉ Conventions.engineLabels := by
    intro engine
    rw [plain name engine] at selected
    cases selected
  rw [engineLabel?_eq_none foreign] at writes
  cases writes

/-- What is created carries the selector exactly where this agrees with the engine's labels. -/
theorem carries_selector_iff (labeled : requirement.effectiveScope = .labeled) :
    (labels requirement).carries requirement.selector = true ↔ requirement.SelectorAgrees := by
  rw [Labels.carries_iff]
  constructor
  · intro carried name value written selected writes
    have held := carried name value selected
    rw [get?_labels, writes, Option.some_or, Option.some.injEq] at held
    exact held.symm
  · intro agrees name value selected
    rw [get?_labels, if_pos labeled, selected]
    cases writes : engineLabel? requirement name with
    | none => rfl
    | some written =>
        rw [Option.some_or, agrees name value written selected writes]

/-- What is built is what the lookup of the requirement asks for, unless a selector disagrees with
the engine's labels. -/
theorem matchesCapability_build_iff {lookup : Lookup}
    (planned : Lookup.plan requester requirement = .ok lookup)
    (built : build requester requirement defaults operatorNamespace serial = .ok capability) :
    lookup.matchesCapability capability = true ↔
      (requirement.effectiveScope = .labeled → requirement.SelectorAgrees) := by
  by_cases labeled : requirement.effectiveScope = .labeled
  · simp only [labeled, forall_const]
    rw [← carries_selector_iff labeled, ← labels_of_build built]
    simp only [Lookup.plan, labeled] at planned
    split at planned
    · cases planned
    · cases planned
      exact Iff.rfl
  · simp only [labeled, false_implies, iff_true]
    exact matchesCapability_build planned built labeled

/-- Where the requirement can be looked up, something can be built for it. -/
theorem exists_build {lookup : Lookup}
    (planned : Lookup.plan requester requirement = .ok lookup) (defaults : Defaults)
    (operatorNamespace : String) (serial : Serial) :
    ∃ built, build requester requirement defaults operatorNamespace serial = .ok built := by
  have placed : ∃ target,
      place requester requirement defaults operatorNamespace serial = .ok target := by
    unfold Lookup.plan at planned
    unfold place
    cases scope : requirement.effectiveScope with
    | dedicated => exact ⟨_, rfl⟩
    | specified =>
        simp only [scope] at planned
        cases target : Lookup.specifiedTarget requester requirement with
        | error error =>
            rw [target] at planned
            cases planned
        | ok target => exact ⟨_, rfl⟩
    | labeled => exact ⟨_, rfl⟩
    | namespaced => exact ⟨_, rfl⟩
    | cluster => exact ⟨_, rfl⟩
  obtain ⟨⟨namespaceName, name⟩, atPlace⟩ := placed
  exact ⟨_, build_eq_ok_iff.mpr ⟨namespaceName, name, atPlace, rfl⟩⟩

/-- What is built for a requirement that is looked up by name is what the lookup asks for. -/
theorem matchesCapability_build_byName {namespaceName name : String}
    (planned : Lookup.plan requester requirement = .ok (.byName namespaceName name))
    (built : build requester requirement defaults operatorNamespace serial = .ok capability) :
    (Lookup.byName namespaceName name).matchesCapability capability = true := by
  apply matchesCapability_build planned built
  intro labeled
  simp only [Lookup.plan, labeled] at planned
  split at planned
  · cases planned
  · cases planned

end Placement

end Provisioning
