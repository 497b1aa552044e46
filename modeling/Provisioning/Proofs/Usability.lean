import Provisioning.Proofs.Validity

/-!
# Usability of what is provided

Whatever others do to the cluster, the consumer of what a call hands out can use it.  It is also what
the lookup of the requirement asks for, with one exception.  A call that finds a capability by its
labels and has to wait for it goes by its name from then on, and hands out what has the name in the
end.  Where the capability was removed in the meantime and another one created under its name, that
can be one that the lookup does not ask for.  A call that created its capability looks again after the
wait, and is safe from this.

Main statement: when what is handed out is what the lookup asks for (`provide_inLookup_iff`).
-/

namespace Provisioning

open ClusterObject

/-- Others may create, change and remove capabilities, but never change the labels of one that is
there. -/
def KeepsLabels (before after : Store Capability) : Prop :=
  ∀ earlier ∈ before.objects, ∀ later ∈ after.objects, key later = key earlier →
    later.labels = earlier.labels

private theorem keepsLabels_remove (store : Store Capability) (place : ObjectKey) :
    KeepsLabels store (store.remove place) := by
  intro earlier earlierMember later laterMember sameKey
  obtain ⟨inStore, _⟩ := Store.mem_remove_iff.mp laterMember
  rw [Store.eq_of_key_eq inStore earlierMember sameKey]

private theorem keepsLabels_create {store : Store Capability} {created : Capability}
    (free : store.find? (key created) = none) : KeepsLabels store (store.put created) := by
  intro earlier earlierMember later laterMember sameKey
  rcases Store.mem_put_iff.mp laterMember with rfl | ⟨inStore, _⟩
  · exact absurd sameKey.symm (Store.find?_eq_none_iff.mp free earlier earlierMember)
  · rw [Store.eq_of_key_eq inStore earlierMember sameKey]

/-! ## Labels of what a call can wait for -/

namespace Requirement

variable {requirement : Requirement} {labels : Labels}

/-- Something that carries the labels can be valid. -/
def AllowsLabels (requirement : Requirement) (labels : Labels) : Prop :=
  (∀ scope, labels.get? Conventions.scopeLabel = some scope →
    scope = requirement.effectiveScope.label) ∧
  ∀ implementation, requirement.implementation = some implementation →
    ∀ label, labels.get? Conventions.implementationLabel = some label →
      label = implementation.label

/-- A call for the requirement can come to wait for something that it found by labels.  It is not so
where it goes by a name, where it selects nothing, and where its selector asks for what is never
valid. -/
def AwaitsByLabels (requirement : Requirement) : Prop :=
  match requirement.effectiveScope with
  | .dedicated => False
  | .specified => False
  | .labeled => requirement.selector.isEmpty = false ∧
      requirement.AllowsLabels requirement.selector
  | .namespaced => True
  | .cluster => True

private theorem allowsLabels_sharedLabels (requirement : Requirement) :
    requirement.AllowsLabels (Lookup.sharedLabels requirement) := by
  constructor
  · intro scope asked
    rw [Lookup.get?_sharedLabels, if_pos rfl] at asked
    obtain ⟨named, isNamed, rfl⟩ := Option.map_eq_some_iff.mp asked
    rw [effectiveScope, isNamed, Option.getD_some]
  · intro implementation required label asked
    rw [Lookup.get?_sharedLabels, if_neg Conventions.scopeLabel_ne_implementationLabel.symm,
      if_pos rfl, required, Option.map_some] at asked
    exact (Option.some.inj asked).symm

/-- The labels with those put over them that validity is about. -/
def completed (requirement : Requirement) (labels : Labels) : Labels :=
  let inScope := labels.insert Conventions.scopeLabel requirement.effectiveScope.label
  match requirement.implementation with
  | some implementation => inScope.insert Conventions.implementationLabel implementation.label
  | none => inScope

private theorem pinnedBy_completed (requirement : Requirement) (labels : Labels) :
    requirement.PinnedBy (requirement.completed labels) := by
  unfold PinnedBy completed
  cases required : requirement.implementation with
  | none => simp
  | some implementation => simp

private theorem AllowsLabels.carries_completed (allows : requirement.AllowsLabels labels) :
    (requirement.completed labels).carries labels = true := by
  rw [Labels.carries_iff]
  intro name value asked
  have inScope : (labels.insert Conventions.scopeLabel requirement.effectiveScope.label).get? name =
      some value := by
    rw [StringMap.get?_insert]
    by_cases isScope : name = Conventions.scopeLabel
    · rw [if_pos isScope, allows.1 value (isScope ▸ asked)]
    · rw [if_neg isScope, asked]
  unfold completed
  cases required : requirement.implementation with
  | none => exact inScope
  | some implementation =>
      simp only [StringMap.get?_insert]
      by_cases isImplementation : name = Conventions.implementationLabel
      · rw [if_pos isImplementation, allows.2 _ required value (isImplementation ▸ asked)]
      · rw [if_neg isImplementation, ← StringMap.get?_insert, inScope]

/-- What carries labels and is valid shows that they allow it. -/
theorem PinnedBy.allowsLabels {carried : Labels} (pinned : requirement.PinnedBy carried)
    (carries : carried.carries labels = true) : requirement.AllowsLabels labels := by
  have given := Labels.carries_iff.mp carries
  constructor
  · intro scope asked
    exact Option.some.inj ((given _ _ asked).symm.trans pinned.1)
  · intro implementation required label asked
    exact Option.some.inj ((given _ _ asked).symm.trans (pinned.2 implementation required))

private theorem awaitsByLabels_iff_plan (requester : Requester) :
    requirement.AwaitsByLabels ↔ ∃ namespaceName? labels,
      Lookup.plan requester requirement = .ok (.byLabels namespaceName? labels) ∧
        requirement.AllowsLabels labels := by
  have shared := allowsLabels_sharedLabels requirement
  constructor
  · unfold AwaitsByLabels
    cases scope : requirement.effectiveScope with
    | dedicated => exact False.elim
    | specified => exact False.elim
    | labeled =>
        rintro ⟨selects, allows⟩
        exact ⟨_, _, Lookup.plan_eq_byLabels_iff.mpr (Or.inl ⟨scope, selects, rfl, rfl⟩), allows⟩
    | namespaced =>
        intro _
        exact ⟨_, _, Lookup.plan_eq_byLabels_iff.mpr (Or.inr (Or.inl ⟨scope, rfl, rfl⟩)), shared⟩
    | cluster =>
        intro _
        exact ⟨_, _, Lookup.plan_eq_byLabels_iff.mpr (Or.inr (Or.inr ⟨scope, rfl, rfl⟩)), shared⟩
  · rintro ⟨_, _, planned, allows⟩
    unfold AwaitsByLabels
    rcases Lookup.plan_eq_byLabels_iff.mp planned with
      ⟨labeled, selects, _, rfl⟩ | ⟨namespaced, _⟩ | ⟨cluster, _⟩
    · rw [labeled]
      exact ⟨selects, allows⟩
    · rw [namespaced]
      trivial
    · rw [cluster]
      trivial

end Requirement

/-- A lookup by labels asks for some. -/
theorem Lookup.not_carries_empty {requester : Requester} {requirement : Requirement}
    {namespaceName? : Option String} {labels : Labels}
    (planned : plan requester requirement = .ok (byLabels namespaceName? labels)) :
    ¬ Labels.carries .empty labels = true := by
  have asksForKind : ¬ Labels.carries .empty (sharedLabels requirement) = true := by
    intro carries
    have isKind : (sharedLabels requirement).get? Conventions.kindLabel =
        some requirement.capability.label := by
      rw [get?_sharedLabels, if_neg Conventions.kindLabel_ne_scopeLabel,
        if_neg Conventions.kindLabel_ne_implementationLabel, if_pos rfl]
    cases Labels.carries_iff.mp carries _ _ isKind
  rcases plan_eq_byLabels_iff.mp planned with
    ⟨_, selects, _, rfl⟩ | ⟨_, _, rfl⟩ | ⟨_, _, rfl⟩
  · rw [Labels.empty_carries, selects]
    decide
  · exact asksForKind
  · exact asksForKind

/-! ## What is handed out -/

namespace Provision

variable {others : Store Capability → Store Capability → Prop} {operatorNamespace : String}
  {serial : Serial} {requester : Requester} {requirement : Requirement} {timeout : Duration}
  {lookup : Lookup} {history : History} {capability : Capability}

/-- A capability has come under the key of a valid one that a lookup had found and that was not
settled, and is none that the lookup asks for. -/
structure Replaces (requirement : Requirement) (lookup : Lookup) (history : History)
    (capability : Capability) : Prop where
  unmatched : lookup.matchesCapability capability = false
  replaced : ∃ found, history.Held found ∧ key capability = key found ∧
    lookup.matchesCapability found = true ∧ found.validate requirement = .ok () ∧
    found.phase.isTerminal = false

private theorem Origin.matches_or_replaces
    (origin : Origin operatorNamespace serial requester requirement lookup history capability) :
    lookup.matchesCapability capability = true ∨ Replaces requirement lookup history capability := by
  cases asked : lookup.matchesCapability capability with
  | true => exact Or.inl rfl
  | false =>
      refine Or.inr ⟨asked, ?_⟩
      cases origin with
      | existing found foundHeld matched valid sameKey asFound =>
          rcases asFound with rfl | unsettled
          · cases asked.symm.trans matched
          · exact ⟨found, foundHeld, sameKey, matched, valid, unsettled⟩
      | created _ _ _ _ _ _ _ matched => cases asked.symm.trans matched

private theorem usable_of_provide {before : History} {result : ProvisionResult}
    (run : (provide operatorNamespace serial requester requirement timeout).EndsWith
      (Answered others) before (.ok result) history) :
    result.Usable ∧ ∃ lookup, Lookup.plan requester requirement = .ok lookup ∧
      (lookup.matchesCapability result.capability = true ∨
        Replaces requirement lookup history result.capability) ∧
      (history.LabelsKept → lookup.matchesCapability result.capability = true) := by
  obtain ⟨lookup, capability, planned, given, held, origin⟩ := origin_of_provide run
  have usable := ProvisionResult.usable_of_ofCapability given
  obtain ⟨_, _, _, _, _, _, rfl⟩ := ProvisionResult.ofCapability_eq_ok_iff.mp given
  exact ⟨usable, lookup, planned, origin.matches_or_replaces, fun kept => origin.matches kept held⟩

/-- Only what was found by labels is ever replaced. -/
theorem Replaces.awaitsByLabels (planned : Lookup.plan requester requirement = .ok lookup)
    (replaces : Replaces requirement lookup history capability) : requirement.AwaitsByLabels := by
  obtain ⟨unmatched, found, _, sameKey, matched, valid, _⟩ := replaces
  cases lookup with
  | byName namespaceName name =>
      have foundKey := Lookup.matchesCapability_byName_iff.mp matched
      rw [Lookup.matchesCapability_byName_iff.mpr (sameKey.trans foundKey)] at unmatched
      cases unmatched
  | byLabels namespaceName? labels =>
      have pinned : requirement.PinnedBy found.labels := Capability.validate_eq_ok_iff.mp valid
      exact (Requirement.awaitsByLabels_iff_plan requester).mpr ⟨namespaceName?, labels, planned,
        pinned.allowsLabels (Lookup.carries_of_matchesCapability matched)⟩

/-- While a capability that was found by labels is waited for, it is removed, and one without labels
is created under its name and served. -/
theorem provide_replacement {namespaceName? : Option String} {labels : Labels}
    (planned : Lookup.plan ⟨"shop", "team"⟩ requirement = .ok (.byLabels namespaceName? labels))
    (allows : requirement.AllowsLabels labels) :
    ∃ store result finish,
      (provide "team" 0 ⟨"shop", "team"⟩ requirement ⟨0⟩).EndsWith (Answered KeepsLabels)
        ⟨store, []⟩ (.ok result) finish ∧
      (Lookup.byLabels namespaceName? labels).matchesCapability result.capability = false := by
  let found : Capability := { Capability.bystander (requirement.completed labels) with
    status := none }
  let replacement := Capability.bystander .empty
  let store := Store.empty.put found
  let emptied := store.remove (key found)
  let start : History := ⟨store, []⟩
  let finish := (start.record emptied).record (emptied.put replacement)
  have matched : (Lookup.byLabels namespaceName? labels).matchesCapability found = true :=
    Lookup.matchesCapability_bystander planned allows.carries_completed
  have valid : found.validate requirement = .ok () :=
    Capability.validate_eq_ok_iff.mpr (requirement.pinnedBy_completed labels)
  have isFirst : (Lookup.byLabels namespaceName? labels).firstIn store = some found :=
    Lookup.firstIn_put_of_below matched fun _ inEmpty => by cases inEmpty
  have free : emptied.find? (key replacement) = none := by
    rw [Store.find?_remove]
    exact if_pos rfl
  have passes : Passes KeepsLabels start finish :=
    .tail (.single ⟨emptied, keepsLabels_remove _ _, rfl⟩) ⟨_, keepsLabels_create free, rfl⟩
  obtain ⟨answer, looked, outcome⟩ := answered_lookup start (.byLabels namespaceName? labels)
  have waited : Answered KeepsLabels start (.awaitSettled found.home found.name ⟨0⟩)
      (.met replacement) finish :=
    answered_awaitSettled (by decide) passes Store.mem_put_self rfl rfl
  obtain ⟨result, given, isReplacement⟩ := ProvisionResult.ofCapability_bystander .empty
  refine ⟨store, result, finish, CallWay.endsWith planned (.found looked
    (outcome.trans (congrArg Except.ok isFirst)) (.awaited valid rfl waited given)), ?_⟩
  rw [isReplacement, Bool.eq_false_iff]
  exact fun asked => Lookup.not_carries_empty planned (Lookup.carries_of_matchesCapability asked)

/-- Whatever others do, what is handed out is usable, and it is what the lookup asks for unless it has
replaced what the call waited for; where all that was ever under one key had the same labels, it
always is.  Among others who never change the labels of what is there, but may remove it and create
it again, it always is exactly for the requirements that never wait for something found by
labels. -/
theorem provide_inLookup_iff (requirement : Requirement) :
    (∀ others operatorNamespace serial requester timeout store result finish,
      (provide operatorNamespace serial requester requirement timeout).EndsWith (Answered others)
          ⟨store, []⟩ (.ok result) finish →
        result.Usable ∧ ∃ lookup, Lookup.plan requester requirement = .ok lookup ∧
          (lookup.matchesCapability result.capability = true ∨
            Replaces requirement lookup finish result.capability) ∧
          (finish.LabelsKept → lookup.matchesCapability result.capability = true)) ∧
    ((∀ operatorNamespace serial requester timeout store result finish,
      (provide operatorNamespace serial requester requirement timeout).EndsWith
          (Answered KeepsLabels) ⟨store, []⟩ (.ok result) finish →
        (∃ lookup, Lookup.plan requester requirement = .ok lookup ∧
          lookup.matchesCapability result.capability = true) ∧ result.Usable) ↔
      ¬ requirement.AwaitsByLabels) := by
  refine ⟨fun _ _ _ _ _ _ _ _ run => usable_of_provide run, ?_, ?_⟩
  · intro inLookup awaits
    obtain ⟨_, labels, planned, allows⟩ :=
      (Requirement.awaitsByLabels_iff_plan ⟨"shop", "team"⟩).mp awaits
    obtain ⟨_, _, _, run, unmatched⟩ := provide_replacement planned allows
    obtain ⟨⟨lookup, alsoPlanned, matched⟩, _⟩ := inLookup _ _ _ _ _ _ _ run
    cases planned.symm.trans alsoPlanned
    cases unmatched.symm.trans matched
  · intro never operatorNamespace serial requester timeout store result finish run
    obtain ⟨usable, lookup, planned, matched | replaces, _⟩ := usable_of_provide run
    · exact ⟨⟨lookup, planned, matched⟩, usable⟩
    · exact absurd (replaces.awaitsByLabels planned) never

end Provision

end Provisioning
