import Provisioning.Proofs.Agreement
import Provisioning.Proofs.Exchanges

/-!
# Callers with a selector

In the labeled scope every caller creates a capability of its own, and the selector finds them all.
Callers who begin where nothing is found only ever see the capabilities that they create themselves,
as they were built or settled.  A caller waits for its own, but looks it up again by the selector,
and may then find another one, that is before its own in the order of the keys and not settled yet.

Main statement: nothing else goes wrong (`ending_of_selecting`).
-/

namespace Provisioning

open ClusterObject

/-! ## The capabilities of the callers -/

namespace Placement

variable {requester : Requester} {requirement : Requirement} {serial : Serial}

/-- What a requester creates for a requirement with a selector. -/
def ownCapability (requester : Requester) (requirement : Requirement) (serial : Serial) :
    Capability where
  metadata :=
    { name := some (labeledName requirement serial)
      namespaceName := some requester.namespaceName
      labels := some (labels requirement) }
  spec := { requirement with scope := some requirement.effectiveScope }

theorem build_labeled (labeled : requirement.effectiveScope = .labeled) (defaults : Defaults)
    (operatorNamespace : String) :
    build requester requirement defaults operatorNamespace serial =
      .ok (ownCapability requester requirement serial) := by
  have placed : place requester requirement defaults operatorNamespace serial =
      .ok (requester.namespaceName, labeledName requirement serial) := by
    simp only [place, labeled]
  exact build_eq_ok_iff.mpr ⟨_, _, placed, rfl⟩

end Placement

namespace Provision

variable {ι : Type}

abbrev own (requirement : Requirement) (callers : ι → Caller) (index : ι) : Capability :=
  Placement.ownCapability (callers index).requester requirement (callers index).serial

/-- Callers with a selector of their own labels, who find nothing in the beginning and have room for
what they create. -/
structure Selecting (requirement : Requirement) (callers : ι → Caller)
    (initial : Store Capability) : Prop where
  labeled : requirement.effectiveScope = .labeled
  selects : requirement.selector.isEmpty = false
  plain : ∀ name ∈ Conventions.engineLabels, requirement.selector.get? name = none
  housed : ∀ index, (callers index).requester.namespaceName ≠ ""
  unmatched : ∀ capability ∈ initial.objects,
    capability.labels.carries requirement.selector = false
  free : ∀ index, initial.find? (key (own requirement callers index)) = none

/-- A caller creates its capability, or one of them is settled. -/
inductive Proceeds (requirement : Requirement) (callers : ι → Caller) :
    Store Capability → Store Capability → Prop where
  | created {store : Store Capability} (index : ι)
      (free : store.find? (key (own requirement callers index)) = none) :
      Proceeds requirement callers store (store.put (own requirement callers index))
  | settled {store : Store Capability} (index : ι) {status : CapabilityStatus}
      (serves : status.Serves) (there : own requirement callers index ∈ store.objects) :
      Proceeds requirement callers store
        (store.put { own requirement callers index with status := some status })

/-- One of the callers' capabilities, as it was settled. -/
def IsReady (requirement : Requirement) (callers : ι → Caller) (object : Capability) : Prop :=
  ∃ (other : ι) (status : CapabilityStatus), status.Serves ∧
    object = { own requirement callers other with status := some status }

/-- How the call of one of them ends: with a settled capability of theirs, or because one that is
before its own is not settled yet. -/
inductive Ending (requirement : Requirement) (callers : ι → Caller) (index : ι) :
    Except ProvisioningError ProvisionResult → Prop where
  | provided {result : ProvisionResult} (ready : IsReady requirement callers result.capability) :
      Ending requirement callers index (.ok result)
  | unsettled (other : ι)
      (before : key (own requirement callers other) < key (own requirement callers index)) :
      Ending requirement callers index
        (.error (.inconsistent (own requirement callers other).home
          (own requirement callers other).name "capability is not provisioned yet"))

variable {requirement : Requirement} {callers : ι → Caller} {initial store after : Store Capability}
  {object found : Capability} {index : ι}

/-! ## What is there -/

theorem IsReady.successful (ready : IsReady requirement callers object) :
    object.phase = .successful := by
  obtain ⟨other, status, serves, rfl⟩ := ready
  exact serves.1

theorem IsReady.terminal (ready : IsReady requirement callers object) :
    object.phase.isTerminal = true :=
  Capability.isTerminal_of_successful ready.successful

private theorem ready_of_terminal {other : ι} (isVersion : object.IsVersionOf (own requirement callers other))
    (terminal : object.phase.isTerminal = true) : IsReady requirement callers object := by
  rcases isVersion with isOwn | ⟨status, serves, isReady⟩
  · rw [isOwn] at terminal
    cases terminal
  · exact ⟨other, status, serves, isReady⟩

theorem Proceeds.keeps (proceeds : Proceeds requirement callers store after)
    (member : object ∈ store.objects) (terminal : object.phase.isTerminal = true) :
    object ∈ after.objects := by
  cases proceeds with
  | created index free =>
      exact Store.mem_put_iff.mpr
        (Or.inr ⟨member, Store.find?_eq_none_iff.mp free object member⟩)
  | settled index serves there =>
      refine Store.mem_put_iff.mpr (Or.inr ⟨member, ?_⟩)
      intro sameKey
      have isOwn : object = own requirement callers index :=
        Store.eq_of_key_eq member there sameKey
      rw [isOwn] at terminal
      cases terminal

private theorem keeps_of_later
    (later : Relation.ReflTransGen (Proceeds requirement callers) store after)
    (member : object ∈ store.objects) (terminal : object.phase.isTerminal = true) :
    object ∈ after.objects := by
  induction later with
  | refl => exact member
  | tail _ proceeds inductionHypothesis => exact proceeds.keeps inductionHypothesis terminal

private theorem exists_key_put {place : ObjectKey} (added : Capability)
    (present : ∃ object ∈ store.objects, key object = place) :
    ∃ object ∈ (store.put added).objects, key object = place := by
  obtain ⟨object, member, atPlace⟩ := present
  by_cases sameKey : key object = key added
  · exact ⟨added, Store.mem_put_self, sameKey.symm.trans atPlace⟩
  · exact ⟨object, Store.mem_put_iff.mpr (Or.inr ⟨member, sameKey⟩), atPlace⟩

private theorem present_of_later {place : ObjectKey}
    (later : Relation.ReflTransGen (Proceeds requirement callers) store after)
    (present : ∃ object ∈ store.objects, key object = place) :
    ∃ object ∈ after.objects, key object = place := by
  induction later with
  | refl => exact present
  | tail _ proceeds inductionHypothesis =>
      cases proceeds with
      | created index free => exact exists_key_put _ inductionHypothesis
      | settled index serves there => exact exists_key_put _ inductionHypothesis

/-- The cluster only ever holds what it held in the beginning and what the callers create. -/
theorem known_of_later
    (later : Relation.ReflTransGen (Proceeds requirement callers) initial store)
    (member : object ∈ store.objects) :
    object ∈ initial.objects ∨ ∃ other, object.IsVersionOf (own requirement callers other) := by
  induction later with
  | refl => exact Or.inl member
  | tail _ proceeds inductionHypothesis =>
      cases proceeds with
      | created index free =>
          rcases Store.mem_put_iff.mp member with isOwn | ⟨inStore, _⟩
          · exact Or.inr ⟨index, Or.inl isOwn⟩
          · exact inductionHypothesis inStore
      | @settled index status serves there =>
          rcases Store.mem_put_iff.mp member with isReady | ⟨inStore, _⟩
          · exact Or.inr ⟨index, Or.inr ⟨status, serves, isReady⟩⟩
          · exact inductionHypothesis inStore

/-- The controller only ever settles what the callers create. -/
theorem proceeds_of_settles
    (later : Relation.ReflTransGen (Proceeds requirement callers) initial store)
    (settles : Settles initial store after) : Proceeds requirement callers store after := by
  obtain ⟨capability, member, status, added, requested, serves, rfl⟩ := settles
  rcases known_of_later later member with inInitial | ⟨other, isOwn | ⟨earlier, served, isReady⟩⟩
  · exact absurd rfl (Store.find?_eq_none_iff.mp added capability inInitial)
  · subst isOwn
    exact .settled other serves member
  · have ready : IsReady requirement callers capability := ⟨other, earlier, served, isReady⟩
    rw [ready.successful] at requested
    cases requested

namespace Selecting

variable (selecting : Selecting requirement callers initial)
include selecting

theorem planned (requester : Requester) :
    Lookup.plan requester requirement = .ok (.byLabels none requirement.selector) :=
  Lookup.plan_eq_byLabels_iff.mpr (Or.inl ⟨selecting.labeled, selecting.selects, rfl, rfl⟩)

theorem matched {other : ι} (isVersion : object.IsVersionOf (own requirement callers other)) :
    (Lookup.byLabels none requirement.selector).matchesCapability object = true := by
  have carried : object.labels.carries requirement.selector = true := by
    rw [isVersion.labels_eq]
    exact (Placement.carries_selector_iff selecting.labeled).mpr
      (Placement.selectorAgrees_of_plain selecting.plain)
  exact carried

theorem valid {other : ι} (isVersion : object.IsVersionOf (own requirement callers other)) :
    object.validate requirement = .ok () := by
  apply (Capability.validate_congr isVersion.labels_eq).mpr
  exact Placement.validate_build (Placement.build_labeled selecting.labeled {} "")

private theorem version_of_key
    (later : Relation.ReflTransGen (Proceeds requirement callers) initial store)
    (member : object ∈ store.objects) (sameKey : key object = key (own requirement callers index)) :
    ∃ other, object.IsVersionOf (own requirement callers other) := by
  rcases known_of_later later member with inInitial | isVersion
  · exact absurd sameKey (Store.find?_eq_none_iff.mp (selecting.free index) object inInitial)
  · exact isVersion

/-- The selector only finds capabilities of the callers. -/
theorem version_of_firstIn
    (later : Relation.ReflTransGen (Proceeds requirement callers) initial store)
    (isFirst : (Lookup.byLabels none requirement.selector).firstIn store = some found) :
    found ∈ store.objects ∧ ∃ other, found.IsVersionOf (own requirement callers other) := by
  obtain ⟨member, matched⟩ := List.mem_filter.mp (mem_of_first? isFirst)
  refine ⟨member, ?_⟩
  rcases known_of_later later member with inInitial | isVersion
  · have carried : found.labels.carries requirement.selector = true := matched
    rw [selecting.unmatched found inInitial] at carried
    cases carried
  · exact isVersion

/-- Once one of them is there, the selector finds it or one before it. -/
theorem exists_firstIn {other : ι} (member : object ∈ store.objects)
    (isVersion : object.IsVersionOf (own requirement callers other)) :
    ∃ found, (Lookup.byLabels none requirement.selector).firstIn store = some found ∧
      ¬ key object < key found := by
  obtain ⟨found, isFirst, rfl | before⟩ :=
    Lookup.exists_firstIn member (selecting.matched isVersion)
  · exact ⟨found, isFirst, ObjectKey.lt_irrefl _⟩
  · exact ⟨found, isFirst, fun after => ObjectKey.lt_irrefl _ (ObjectKey.lt_trans before after)⟩

end Selecting

/-! ## The parts of a call -/

section Parts

variable {defaults : Defaults} {timeout : Duration} {target : Capability}

/-- A program that ends as the call of a caller should, whatever the others do. -/
abbrev SecureFor (requirement : Requirement) (callers : ι → Caller) (defaults : Defaults)
    (initial : Store Capability) (index : ι)
    (program : CapabilityProgram (Except ProvisioningError ProvisionResult))
    (store : Store Capability) : Prop :=
  program.Secure (sharedCluster defaults initial)
    (Relation.ReflTransGen (Proceeds requirement callers))
    (fun _ outcome => Ending requirement callers index outcome) store

private theorem secure_lookup {lookup : Lookup}
    {next : lookup.request.Answer → CapabilityProgram (Except ProvisioningError ProvisionResult)}
    (given : ∀ reached answer,
      Relation.ReflTransGen (Proceeds requirement callers) store reached →
      lookup.outcome answer = .ok (lookup.firstIn reached) →
      SecureFor requirement callers defaults initial index (next answer) reached) :
    SecureFor requirement callers defaults initial index (.call lookup.request next) store := by
  intro reached later
  constructor
  · obtain ⟨answer, replied⟩ := lookup.exists_reply defaults reached
    exact Or.inl ⟨answer, reached, replied⟩
  · intro answer after replied
    obtain ⟨outcome, rfl⟩ := Lookup.outcome_of_replies replied
    exact ⟨.refl, given after answer later outcome⟩

/-- Until what is awaited is settled the controller can act, and then the wait ends. -/
theorem secure_awaitSettled (selecting : Selecting requirement callers initial) {other : ι}
    {next : Wait.End Capability → CapabilityProgram (Except ProvisioningError ProvisionResult)}
    (sinceStart : Relation.ReflTransGen (Proceeds requirement callers) initial store)
    (present : ∃ object ∈ store.objects, key object = key (own requirement callers other))
    (sameKey : key target = key (own requirement callers other))
    (given : ∀ reached object,
      Relation.ReflTransGen (Proceeds requirement callers) store reached →
      object ∈ reached.objects → key object = key (own requirement callers other) →
      IsReady requirement callers object →
      SecureFor requirement callers defaults initial index (next (.met object)) reached) :
    SecureFor requirement callers defaults initial index
      (.call (.awaitSettled target.home target.name timeout) next) store := by
  intro reached later
  have reachedSince := sinceStart.trans later
  constructor
  · obtain ⟨object, member, atPlace⟩ := present_of_later later present
    obtain ⟨creator, isOwn | ⟨status, serves, isReady⟩⟩ :=
      selecting.version_of_key reachedSince member atPlace
    · right
      refine ⟨_, object, member, .serving "b", ?_, ?_, CapabilityStatus.serves_serving (by decide),
        rfl⟩
      · rw [atPlace]
        exact selecting.free other
      · rw [isOwn]
        rfl
    · have ready : IsReady requirement callers object := ⟨creator, status, serves, isReady⟩
      exact Or.inl ⟨_, reached, ⟨object, member, atPlace.trans sameKey.symm, ready.terminal, rfl⟩,
        rfl⟩
  · intro answer after replied
    obtain ⟨⟨object, member, isNamed, terminal, isAnswer⟩, unchanged⟩ := replied
    subst isAnswer unchanged
    have atPlace : key object = key (own requirement callers other) := isNamed.trans sameKey
    obtain ⟨creator, isVersion⟩ := selecting.version_of_key reachedSince member atPlace
    exact ⟨.refl, given _ object later member atPlace (ready_of_terminal isVersion terminal)⟩

private theorem secure_result (selecting : Selecting requirement callers initial)
    (ready : IsReady requirement callers object) :
    SecureFor requirement callers defaults initial index
      (.done (ProvisionResult.ofCapability object)) store := by
  obtain ⟨other, status, serves, rfl⟩ := ready
  obtain ⟨result, given, same⟩ := ProvisionResult.ofCapability_of_serves
    (own requirement callers other) serves (selecting.housed other)
  rw [given]
  exact .provided ⟨other, status, serves, same⟩

/-- A call that waited for its own capability ends with it or with one before it. -/
theorem secure_awaitCreated (selecting : Selecting requirement callers initial)
    (sinceStart : Relation.ReflTransGen (Proceeds requirement callers) initial store)
    (present : ∃ object ∈ store.objects, key object = key (own requirement callers index))
    (sameKey : key target = key (own requirement callers index)) :
    SecureFor requirement callers defaults initial index
      (awaitCreated (.byLabels none requirement.selector) timeout target).run store := by
  rw [run_awaitCreated]
  apply secure_awaitSettled selecting sinceStart present sameKey
  intro reached object later member atPlace ready
  simp only [if_neg (Capability.ne_failed_of_successful ready.successful)]
  apply secure_lookup
  intro last answer goesOn outcome
  have sinceStartLast := (sinceStart.trans later).trans goesOn
  have stillThere := keeps_of_later goesOn member ready.terminal
  obtain ⟨creator, isVersion⟩ := selecting.version_of_key sinceStartLast stillThere atPlace
  obtain ⟨found, isFirst, notBefore⟩ := selecting.exists_firstIn stillThere isVersion
  obtain ⟨foundMember, other, isOwn | ⟨status, serves, isReady⟩⟩ :=
    selecting.version_of_firstIn sinceStartLast isFirst
  · simp only [outcome, isFirst, isOwn]
    -- At the place of its own capability is the settled one, so that this is another.
    have before : key (own requirement callers other) < key (own requirement callers index) := by
      rw [isOwn, atPlace] at notBefore
      rcases ObjectKey.lt_or_eq_or_lt (key (own requirement callers other))
          (key (own requirement callers index)) with below | same | above
      · exact below
      · have isSettled : object = found :=
          Store.eq_of_key_eq stillThere foundMember (by rw [atPlace, isOwn, same])
        have pending := ready.successful
        rw [isSettled, isOwn] at pending
        cases pending
      · exact absurd above notBefore
    exact .unsettled other before
  · simp only [outcome, isFirst]
    exact secure_result selecting ⟨other, status, serves, isReady⟩

private theorem secure_useExisting (selecting : Selecting requirement callers initial)
    (sinceStart : Relation.ReflTransGen (Proceeds requirement callers) initial store)
    (member : found ∈ store.objects) {other : ι}
    (isVersion : found.IsVersionOf (own requirement callers other)) :
    SecureFor requirement callers defaults initial index (useExisting requirement timeout found).run
      store := by
  rw [run_useExisting]
  simp only [selecting.valid isVersion]
  by_cases terminal : found.phase.isTerminal = true
  · rw [if_pos terminal]
    exact secure_result selecting (ready_of_terminal isVersion terminal)
  · rw [if_neg terminal]
    apply secure_awaitSettled selecting sinceStart ⟨found, member, isVersion.key_eq⟩
      isVersion.key_eq
    intro reached object _ _ _ ready
    exact secure_result selecting ready

private theorem secure_adopt (selecting : Selecting requirement callers initial)
    (sinceStart : Relation.ReflTransGen (Proceeds requirement callers) initial store)
    (present : ∃ object ∈ store.objects, key object = key (own requirement callers index)) :
    SecureFor requirement callers defaults initial index
      (adopt requirement (own requirement callers index) >>=
        awaitCreated (.byLabels none requirement.selector) timeout).run store := by
  rw [run_adopt_bind]
  intro reached later
  refine ⟨Or.inl ⟨_, reached, rfl, rfl⟩, ?_⟩
  intro answer after replied
  obtain ⟨isAnswer, unchanged⟩ := replied
  subst unchanged
  obtain ⟨object, member, atPlace⟩ := present_of_later later present
  have read : after.find? (key (own requirement callers index)) = some object :=
    Store.find?_eq_some_iff.mpr ⟨member, atPlace⟩
  have isRead : answer = .ok (some object) := isAnswer.trans (congrArg Except.ok read)
  obtain ⟨creator, isVersion⟩ := selecting.version_of_key (sinceStart.trans later) member atPlace
  refine ⟨.refl, ?_⟩
  simp only [isRead, selecting.valid isVersion]
  exact secure_awaitCreated selecting (sinceStart.trans later) ⟨object, member, atPlace⟩ atPlace

private theorem secure_createOrAdopt (selecting : Selecting requirement callers initial)
    (sinceStart : Relation.ReflTransGen (Proceeds requirement callers) initial store) :
    SecureFor requirement callers defaults initial index
      (createOrAdopt requirement (own requirement callers index) >>=
        awaitCreated (.byLabels none requirement.selector) timeout).run store := by
  rw [run_createOrAdopt_bind]
  intro reached later
  have reachedSince := sinceStart.trans later
  cases place : reached.find? (key (own requirement callers index)) with
  | none =>
      refine ⟨Or.inl ⟨_, _, (replies_create_of_free defaults place).mpr ⟨rfl, rfl⟩⟩, ?_⟩
      intro answer after replied
      obtain ⟨isAnswer, isAfter⟩ := (replies_create_of_free defaults place).mp replied
      subst isAnswer isAfter
      have creates : Relation.ReflTransGen (Proceeds requirement callers) reached
          (reached.put (own requirement callers index)) := .single (.created index place)
      exact ⟨creates, secure_awaitCreated selecting (reachedSince.trans creates)
        ⟨_, Store.mem_put_self, rfl⟩ rfl⟩
  | some object =>
      refine ⟨Or.inl ⟨_, _, (replies_create_of_taken defaults place).mpr ⟨rfl, rfl⟩⟩, ?_⟩
      intro answer after replied
      obtain ⟨isAnswer, isAfter⟩ := (replies_create_of_taken defaults place).mp replied
      subst isAnswer isAfter
      exact ⟨.refl, secure_adopt selecting reachedSince
        ⟨object, Store.find?_eq_some_iff.mp place⟩⟩

/-- Every call ends as it should, whenever it starts. -/
theorem secure_provide (selecting : Selecting requirement callers initial)
    (operatorNamespace : String) :
    SecureFor requirement callers defaults initial index
      (provide operatorNamespace (callers index).serial (callers index).requester requirement
        (callers index).timeout) initial := by
  rw [provide_eq_call _ _ _ _ _ _ (selecting.planned _)]
  apply secure_lookup
  intro reached answer later outcome
  cases isFirst : (Lookup.byLabels none requirement.selector).firstIn reached with
  | some found =>
      obtain ⟨member, other, isVersion⟩ := selecting.version_of_firstIn later isFirst
      simp only [outcome, isFirst]
      exact secure_useExisting selecting later member isVersion
  | none =>
      simp only [outcome, isFirst, run_provideNew]
      intro loaded goesOn
      refine ⟨Or.inl ⟨_, loaded, rfl, rfl⟩, ?_⟩
      intro read after replied
      obtain ⟨isRead, unchanged⟩ := replied
      subst isRead unchanged
      refine ⟨.refl, ?_⟩
      simp only [Placement.build_labeled selecting.labeled]
      exact secure_createOrAdopt selecting (later.trans goesOn)

end Parts

/-! ## All calls together -/

section Gathering

variable [DecidableEq ι] {operatorNamespace : String} {defaults : Defaults}
  {trace : List (Crowd.Event ι CapabilityCall CapabilityCall.Answer)}
  {crowd : Crowd ι CapabilityCall CapabilityCall.Answer (Except ProvisioningError ProvisionResult)
    (Store Capability)}

theorem secure_of_selecting (selecting : Selecting requirement callers initial)
    (run : Crowd.Run (sharedCluster defaults initial)
      (gathering operatorNamespace requirement callers initial) trace crowd) (index : ι) :
    SecureFor requirement callers defaults initial index (crowd.programs index) crowd.shared := by
  have secured : Relation.ReflTransGen (Proceeds requirement callers) initial crowd.shared ∧
      ∀ caller, SecureFor requirement callers defaults initial caller (crowd.programs caller)
        crowd.shared := by
    apply Crowd.secure_of_run (fun _ => .refl) (fun _ _ _ => .trans) ?_ ?_ ?_ run
    · intro _ _ _ _ _ ending
      exact ending
    · intro before after later settles
      exact .single (proceeds_of_settles later settles)
    · intro caller
      exact secure_provide selecting operatorNamespace
  exact secured.2 index

/-- Whatever the order of their steps, a call ends with a settled capability of one of the callers,
or finds one that is before its own and not settled yet. -/
theorem ending_of_selecting (selecting : Selecting requirement callers initial)
    (run : Crowd.Run (sharedCluster defaults initial)
      (gathering operatorNamespace requirement callers initial) trace crowd)
    {outcome : Except ProvisioningError ProvisionResult}
    (program : crowd.programs index = .done outcome) :
    Ending requirement callers index outcome := by
  have secure := secure_of_selecting selecting run index
  rw [program] at secure
  exact secure

theorem progress_of_selecting (selecting : Selecting requirement callers initial)
    (run : Crowd.Run (sharedCluster defaults initial)
      (gathering operatorNamespace requirement callers initial) trace crowd) (index : ι) :
    (∃ outcome, crowd.programs index = .done outcome) ∨
      ∃ event after, Crowd.Step (sharedCluster defaults initial) crowd event after ∧
        (event.isOf index = true ∨ event.isAct = true) :=
  Crowd.progress_of_secure (fun _ => .refl) (secure_of_selecting selecting run index)

end Gathering

end Provision

end Provisioning
