import Provisioning.Proofs.Courses
import Provisioning.Proofs.Origin
import Provisioning.Proofs.Serving

/-!
# Validity of what is provided

Others create capabilities and controllers report on them, but nothing is removed and no labels
change.  A found or adopted capability is checked against the requirement; the one that is looked
up again after a creation is not.  Its labels are then only those that the lookup asks for, so
that every provided capability is valid exactly for the requirements whose lookup names the
labels that validity is about.
-/

namespace Provisioning

open ClusterObject

/-- Others create a capability, or a controller reports on one. -/
inductive Grows : Store Capability → Store Capability → Prop where
  | created {store : Store Capability} (capability : Capability)
      (free : store.find? (key capability) = none) : Grows store (store.put capability)
  | reported {store : Store Capability} (capability : Capability)
      (status : Option CapabilityStatus) (member : capability ∈ store.objects) :
      Grows store (store.put { capability with status := status })

/-- All that was ever in the cluster is still there, with the same labels. -/
def History.Steady (history : History) : Prop :=
  ∀ capability, history.Held capability →
    ∃ present ∈ history.now.objects, key present = key capability ∧
      present.labels = capability.labels

/-! ## Nothing is lost -/

theorem History.Steady.labelsKept {history : History} (steady : history.Steady) :
    history.LabelsKept := by
  intro left right leftHeld rightHeld sameKey
  obtain ⟨leftPresent, leftMember, leftKey, leftLabels⟩ := steady left leftHeld
  obtain ⟨rightPresent, rightMember, rightKey, rightLabels⟩ := steady right rightHeld
  have same : leftPresent = rightPresent :=
    Store.eq_of_key_eq leftMember rightMember (leftKey.trans (sameKey.trans rightKey.symm))
  rw [← leftLabels, ← rightLabels, same]

/-- What is put in place of something with the same labels loses nothing. -/
theorem present_put {store : Store Capability} {added : Capability}
    (kept : ∀ capability ∈ store.objects, key capability = key added →
      added.labels = capability.labels) :
    ∀ capability ∈ store.objects, ∃ present ∈ (store.put added).objects,
      key present = key capability ∧ present.labels = capability.labels := by
  intro capability member
  by_cases sameKey : key capability = key added
  · exact ⟨added, Store.mem_put_self, sameKey.symm, kept capability member sameKey⟩
  · exact ⟨capability, Store.mem_put_iff.mpr (Or.inr ⟨member, sameKey⟩), rfl, rfl⟩

theorem Grows.present {store after : Store Capability} (grows : Grows store after) :
    ∀ capability ∈ store.objects, ∃ present ∈ after.objects,
      key present = key capability ∧ present.labels = capability.labels := by
  cases grows with
  | created added free =>
      apply present_put
      intro capability member sameKey
      exact absurd sameKey (Store.find?_eq_none_iff.mp free capability member)
  | reported reported status member =>
      apply present_put
      intro capability otherMember sameKey
      rw [Store.eq_of_key_eq otherMember member sameKey]
      rfl

theorem History.Steady.record {history : History} {store : Store Capability}
    (steady : history.Steady)
    (present : ∀ capability ∈ history.now.objects, ∃ present ∈ store.objects,
      key present = key capability ∧ present.labels = capability.labels) :
    (history.record store).Steady := by
  intro capability held
  rcases History.held_record_iff.mp held with member | heldBefore
  · exact ⟨capability, member, rfl, rfl⟩
  · obtain ⟨before, beforeMember, beforeKey, beforeLabels⟩ := steady capability heldBefore
    obtain ⟨after, afterMember, afterKey, afterLabels⟩ := present before beforeMember
    exact ⟨after, afterMember, afterKey.trans beforeKey, afterLabels.trans beforeLabels⟩

theorem keeps_steady : Keeps Grows History.Steady where
  changed _ _ grows steady := steady.record grows.present
  created _ added free steady := steady.record (Grows.created added free).present

theorem steady_start (store : Store Capability) : History.Steady ⟨store, []⟩ := by
  rintro capability ⟨other, recorded, member⟩
  rw [List.mem_singleton.mp recorded] at member
  exact ⟨capability, member, rfl, rfl⟩

/-- Over a call that starts in any cluster, nothing is lost. -/
theorem steady_of_run {α : Type} {program : CapabilityProgram α} {store : Store Capability}
    {value : α} {finish : History}
    (run : program.EndsWith (Answered Grows) ⟨store, []⟩ value finish) : finish.Steady :=
  keeps_steady.run run (steady_start store)

/-! ## Labels that validity is about -/

namespace Requirement

/-- Labels name the scope in force and, where the requirement sets one, the implementation. -/
def PinnedBy (requirement : Requirement) (labels : Labels) : Prop :=
  labels.get? Conventions.scopeLabel = some requirement.effectiveScope.label ∧
    ∀ implementation, requirement.implementation = some implementation →
      labels.get? Conventions.implementationLabel = some implementation.label

/-- The lookup of a requirement leads to its canonical place, or names the labels that validity is
about.  A namespaced requirement has to write its scope out; a selector has to repeat the scope and
the implementation. -/
def PinsLabels (requirement : Requirement) : Prop :=
  match requirement.effectiveScope with
  | .dedicated => True
  | .specified => True
  | .labeled => requirement.selector.isEmpty = false → requirement.PinnedBy requirement.selector
  | .namespaced => requirement.scope = some .namespaced
  | .cluster => True

theorem PinnedBy.mono {requirement : Requirement} {actual wanted : Labels}
    (pinned : requirement.PinnedBy wanted) (carried : actual.carries wanted = true) :
    requirement.PinnedBy actual := by
  have carries := Labels.carries_iff.mp carried
  refine ⟨carries _ _ pinned.1, ?_⟩
  intro implementation required
  exact carries _ _ (pinned.2 implementation required)

/-- The engine's labels name the implementation always and the scope when it is written out. -/
@[simp]
theorem pinnedBy_sharedLabels_iff {requirement : Requirement} :
    requirement.PinnedBy (Lookup.sharedLabels requirement) ↔ requirement.scope ≠ none := by
  rw [PinnedBy, Lookup.get?_sharedLabels, Lookup.get?_sharedLabels, if_pos rfl,
    if_neg Conventions.scopeLabel_ne_implementationLabel.symm, if_pos rfl]
  cases named : requirement.scope with
  | none => simp
  | some scope =>
      simp only [effectiveScope, named, Option.map_some, Option.getD_some, ne_eq, reduceCtorEq,
        not_false_eq_true, true_and, iff_true]
      intro implementation required
      rw [required, Option.map_some]

/-- A requirement pins labels when whatever it looks up by labels is valid. -/
theorem pinsLabels_iff_plan {requirement : Requirement} (requester : Requester) :
    requirement.PinsLabels ↔ ∀ namespaceName? labels,
      Lookup.plan requester requirement = .ok (.byLabels namespaceName? labels) →
        requirement.PinnedBy labels := by
  constructor
  · intro pins namespaceName? labels planned
    rcases Lookup.plan_eq_byLabels_iff.mp planned with
      ⟨labeled, selects, _, rfl⟩ | ⟨namespaced, _, rfl⟩ | ⟨cluster, _, rfl⟩
    · simp only [PinsLabels, labeled] at pins
      exact pins selects
    · simp only [PinsLabels, namespaced] at pins
      rw [pinnedBy_sharedLabels_iff, pins]
      exact Option.some_ne_none _
    · rw [pinnedBy_sharedLabels_iff]
      intro unnamed
      rw [effectiveScope, unnamed, Option.getD_none] at cluster
      cases cluster
  · intro pinned
    unfold PinsLabels
    cases scope : requirement.effectiveScope with
    | dedicated => trivial
    | specified => trivial
    | labeled =>
        intro selects
        exact pinned none _ (Lookup.plan_eq_byLabels_iff.mpr (Or.inl ⟨scope, selects, rfl, rfl⟩))
    | namespaced =>
        have written := pinnedBy_sharedLabels_iff.mp
          (pinned _ _ (Lookup.plan_eq_byLabels_iff.mpr (Or.inr (Or.inl ⟨scope, rfl, rfl⟩))))
        obtain ⟨named, isNamed⟩ := Option.ne_none_iff_exists'.mp written
        rw [effectiveScope, isNamed, Option.getD_some] at scope
        rw [isNamed, scope]
    | cluster => trivial

end Requirement

/-! ## What is provided where labels are pinned -/

theorem Lookup.carries_of_matchesCapability {namespaceName? : Option String} {labels : Labels}
    {capability : Capability}
    (matched : (byLabels namespaceName? labels).matchesCapability capability = true) :
    capability.labels.carries labels = true := by
  cases namespaceName? with
  | none => exact matched
  | some namespaceName => exact (Bool.and_eq_true_iff.mp matched).2

/-- What is found by labels that validity is about, is valid. -/
theorem Lookup.valid_of_pinnedBy {requirement : Requirement} {namespaceName? : Option String}
    {labels : Labels} {capability : Capability} (pinned : requirement.PinnedBy labels)
    (matched : (byLabels namespaceName? labels).matchesCapability capability = true) :
    capability.validate requirement = .ok () :=
  Capability.validate_eq_ok_iff.mpr (pinned.mono (carries_of_matchesCapability matched))

namespace Provision

variable {operatorNamespace : String} {serial : Serial} {requester : Requester}
  {requirement : Requirement} {lookup : Lookup} {history : History} {capability : Capability}

theorem Origin.pinned (pins : requirement.PinsLabels)
    (planned : Lookup.plan requester requirement = .ok lookup) (kept : history.LabelsKept)
    (held : history.Held capability)
    (origin : Origin operatorNamespace serial requester requirement lookup history capability) :
    requirement.PinnedBy capability.labels := by
  have pinned_of_valid : ∀ valid, history.Held valid → key capability = key valid →
      valid.validate requirement = .ok () → requirement.PinnedBy capability.labels := by
    intro valid validHeld sameKey validated
    rw [kept capability valid held validHeld sameKey]
    exact Capability.validate_eq_ok_iff.mp validated
  cases origin with
  | existing found foundHeld _ valid sameKey _ =>
      exact pinned_of_valid found foundHeld sameKey valid
  | created target built defaults targetHeld valid placed sameKey matched =>
      cases lookup with
      | byName namespaceName name =>
          -- By name, the second lookup leads to what was checked before the wait.
          have builtMatched := Placement.matchesCapability_build_byName planned placed
          have builtKey := Lookup.matchesCapability_byName_iff.mp builtMatched
          have capabilityKey := Lookup.matchesCapability_byName_iff.mp matched
          have sameAsTarget : key capability = key target :=
            capabilityKey.trans (builtKey.symm.trans sameKey.symm)
          exact pinned_of_valid target targetHeld sameAsTarget valid
      | byLabels namespaceName? labels =>
          -- By labels, it may lead to something that nobody checked.
          have pinned := (Requirement.pinsLabels_iff_plan requester).mp pins _ _ planned
          exact pinned.mono (Lookup.carries_of_matchesCapability matched)

end Provision

/-! ## What is provided where they are not -/

/-- A capability that someone else creates with just the labels given, and that serves. -/
def Capability.bystander (labels : Labels) : Capability where
  metadata := { name := some "a", namespaceName := some "team", labels := some labels }
  spec := { capability := .dbms }
  status := some (.serving "b")

theorem ProvisionResult.ofCapability_bystander (labels : Labels) :
    ∃ result, ofCapability (.bystander labels) = .ok result ∧
      result.capability = .bystander labels := by
  have housed : (Capability.bystander labels).home ≠ "" := by
    show "team" ≠ ""
    decide
  exact ofCapability_of_serves (.bystander labels)
    (CapabilityStatus.serves_serving (by decide)) housed

/-- The names of capabilities that are found by labels sort behind the bystander's. -/
theorem Placement.bystander_lt_name (requirement : Requirement) :
    "a" < labeledName requirement 0 ∧ "a" < baseName requirement ++ "-in-namespace" ∧
      "a" < baseName requirement ++ "-in-cluster" := by
  unfold labeledName baseName stem
  cases requirement.capability with
  | dbms =>
      cases requirement.implementation with
      | none => decide
      | some implementation => cases implementation <;> decide
  | sso =>
      cases requirement.implementation with
      | none => decide
      | some implementation => cases implementation <;> decide

private theorem Placement.build_behind_bystander {requirement : Requirement}
    {namespaceName? : Option String} {labels : Labels}
    (planned : Lookup.plan ⟨"shop", "team"⟩ requirement = .ok (.byLabels namespaceName? labels)) :
    ∃ built, build ⟨"shop", "team"⟩ requirement {} "team" 0 = .ok built ∧
      key (Capability.bystander labels) < key built := by
  obtain ⟨belowLabeled, belowNamespaced, belowCluster⟩ := bystander_lt_name requirement
  have placed : ∃ name, place ⟨"shop", "team"⟩ requirement {} "team" 0 = .ok ("team", name) ∧
      "a" < name := by
    rcases Lookup.plan_eq_byLabels_iff.mp planned with
      ⟨labeled, _⟩ | ⟨namespaced, _⟩ | ⟨cluster, _⟩
    · exact ⟨_, by rw [place, labeled], belowLabeled⟩
    · exact ⟨_, by rw [place, namespaced], belowNamespaced⟩
    · have unset : ∀ key, Defaults.get? {} key = none := fun _ => rfl
      refine ⟨_, ?_, belowCluster⟩
      simp only [place, cluster, unset, Option.getD_none]
  obtain ⟨name, atPlace, below⟩ := placed
  exact ⟨_, build_eq_ok_iff.mpr ⟨_, _, atPlace, rfl⟩, Or.inr ⟨rfl, below⟩⟩

theorem Lookup.matchesCapability_bystander {requirement : Requirement}
    {namespaceName? : Option String} {labels carried : Labels}
    (planned : plan ⟨"shop", "team"⟩ requirement = .ok (byLabels namespaceName? labels))
    (carries : carried.carries labels = true) :
    (byLabels namespaceName? labels).matchesCapability (.bystander carried) = true := by
  rcases plan_eq_byLabels_iff.mp planned with ⟨_, _, rfl, _⟩ | ⟨_, rfl, _⟩ | ⟨_, rfl, _⟩
  · exact carries
  · exact Bool.and_eq_true_iff.mpr ⟨beq_self_eq_true "team", carries⟩
  · exact carries

namespace Provision

/-- While a created capability is waited for, the bystander is created; the second lookup finds it
first. -/
theorem provide_bystander (requirement : Requirement) {namespaceName? : Option String}
    {labels : Labels}
    (planned : Lookup.plan ⟨"shop", "team"⟩ requirement = .ok (.byLabels namespaceName? labels)) :
    ∃ result finish, (provide "team" 0 ⟨"shop", "team"⟩ requirement ⟨0⟩).EndsWith (Answered Grows)
      ⟨.empty, []⟩ (.ok result) finish ∧ result.capability = .bystander labels := by
  obtain ⟨built, placed, behind⟩ := Placement.build_behind_bystander planned
  obtain ⟨result, given, isBystander⟩ := ProvisionResult.ofCapability_bystander labels
  -- The built capability is created and reported on, and then the bystander comes.
  let ready : Capability := { built with status := some (.serving "b") }
  let created : Store Capability := Store.empty.put built
  let reported := created.put ready
  let crowded := reported.put (.bystander labels)
  have below : ∀ other ∈ reported.objects, key (Capability.bystander labels) < key other := by
    intro other member
    rcases Store.mem_put_iff.mp member with rfl | ⟨inCreated, otherKey⟩
    · exact behind
    · rcases Store.mem_put_iff.mp inCreated with rfl | ⟨inEmpty, _⟩
      · exact absurd rfl otherKey
      · cases inEmpty
  have free : reported.find? (key (Capability.bystander labels)) = none := by
    rw [Store.find?_eq_none_iff]
    intro other member sameKey
    exact ObjectKey.lt_irrefl _ (sameKey ▸ below other member)
  have readyThere : ready ∈ crowded.objects := by
    refine Store.mem_put_iff.mpr (Or.inr ⟨Store.mem_put_self, ?_⟩)
    intro sameKey
    exact ObjectKey.lt_irrefl _ (sameKey ▸ below ready Store.mem_put_self)
  have notFailed : ready.phase ≠ .failed := by
    show Phase.successful ≠ Phase.failed
    decide
  let start : History := ⟨.empty, []⟩
  let finish := ((start.record created).record reported).record crowded
  have passes : Passes Grows (start.record created) finish := by
    refine .tail (.single ⟨reported, ?_, rfl⟩) ⟨crowded, Grows.created _ free, rfl⟩
    exact Grows.reported built (some (.serving "b")) Store.mem_put_self
  obtain ⟨answer, looked, missed⟩ :=
    answered_lookup start (.byLabels namespaceName? labels)
  have made : Answered Grows start (.create built) (.ok built) (start.record created) :=
    ⟨start, .refl, Or.inl ⟨created, Store.create_eq_ok_iff.mpr ⟨rfl, rfl⟩, rfl⟩⟩
  have waited : Answered Grows (start.record created) (.awaitSettled built.home built.name ⟨0⟩)
      (.met ready) finish :=
    answered_awaitSettled (by decide) passes readyThere rfl rfl
  have foundFirst : (Lookup.byLabels namespaceName? labels).firstIn finish.now =
      some (.bystander labels) :=
    Lookup.firstIn_put_of_below
      (Lookup.matchesCapability_bystander planned (Labels.carries_self labels)) below
  obtain ⟨lastAnswer, lookedAgain, found⟩ :=
    answered_lookup finish (.byLabels namespaceName? labels)
  have awaits := AwaitWay.resolved waited notFailed lookedAgain
    (found.trans (congrArg Except.ok foundFirst)) given
  exact ⟨result, finish, CallWay.endsWith planned
    (.missed looked missed (.placed .refl placed (.created made awaits))), isBystander⟩

/-! ## The requirements that are provided for validly -/

/-- Whatever others create and controllers report, what is provided has the scope and, where it is
required, the implementation: exactly for the requirements that pin labels. -/
theorem provide_valid_iff_pinsLabels (requirement : Requirement) :
    (∀ operatorNamespace serial requester timeout store result finish,
      (provide operatorNamespace serial requester requirement timeout).EndsWith (Answered Grows)
          ⟨store, []⟩ (.ok result) finish →
        result.capability.scopeLabel? = some requirement.effectiveScope.label ∧
          ∀ implementation, requirement.implementation = some implementation →
            result.capability.implementationLabel? = some implementation.label) ↔
      requirement.PinsLabels := by
  constructor
  · intro valid
    rw [Requirement.pinsLabels_iff_plan ⟨"shop", "team"⟩]
    intro namespaceName? labels planned
    obtain ⟨result, finish, run, isBystander⟩ := provide_bystander requirement planned
    have pinned := valid _ _ _ _ _ _ _ run
    rw [isBystander] at pinned
    exact pinned
  · intro pins operatorNamespace serial requester timeout store result finish run
    obtain ⟨lookup, capability, planned, given, held, origin⟩ := origin_of_provide run
    obtain ⟨_, _, _, _, _, _, rfl⟩ := ProvisionResult.ofCapability_eq_ok_iff.mp given
    exact origin.pinned pins planned (steady_of_run run).labelsKept held

end Provision

end Provisioning
