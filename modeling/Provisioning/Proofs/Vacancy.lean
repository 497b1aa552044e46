import Provisioning.Proofs.SharedCluster

/-!
# A call where there is a vacancy

Nothing is there that a requirement could be provided by, and there is room for the capability that
would be created.  If nobody creates anything else, the cluster goes through three stages only: the
capability is absent, it is there as it was built, and it is there as the controller settled it.

Main statement: in these surroundings a call is secure, whatever stage it finds, and ends with a
result for the capability (`secures_provideBy`).
-/

namespace Provisioning

open ClusterObject

/-- A capability as it was built, or as a controller settled it. -/
def Capability.IsVersionOf (version built : Capability) : Prop :=
  version = built ∨
    ∃ status : CapabilityStatus, status.Serves ∧ version = { built with status := some status }

/-- The capability is created, and settled. -/
inductive Advances (initial : Store Capability) (built : Capability) :
    Store Capability → Store Capability → Prop where
  | created : Advances initial built initial (initial.put built)
  | settled {status : CapabilityStatus} (serves : status.Serves) :
      Advances initial built (initial.put built)
        (initial.put { built with status := some status })

/-- The capability is there. -/
def IsMade (initial : Store Capability) (built : Capability) (store : Store Capability) : Prop :=
  ∃ version, version.IsVersionOf built ∧ store = initial.put version

/-- The capability is there, settled, and this is it. -/
def IsSettled (initial : Store Capability) (built : Capability) (store : Store Capability)
    (object : Capability) : Prop :=
  ∃ status : CapabilityStatus, status.Serves ∧
    object = { built with status := some status } ∧ store = initial.put object

namespace Capability.IsVersionOf

variable {version built : Capability}

theorem key_eq (isVersion : version.IsVersionOf built) : key version = key built := by
  rcases isVersion with rfl | ⟨_, _, rfl⟩
  · rfl
  · rfl

theorem labels_eq (isVersion : version.IsVersionOf built) : version.labels = built.labels := by
  rcases isVersion with rfl | ⟨_, _, rfl⟩
  · rfl
  · rfl

theorem find?_put (isVersion : version.IsVersionOf built) (store : Store Capability) :
    (store.put version).find? (key built) = some version :=
  Store.find?_eq_some_iff.mpr ⟨Store.mem_put_self, isVersion.key_eq⟩

end Capability.IsVersionOf

section Stages

variable {initial store after : Store Capability} {built : Capability}

/-! ## The stages of the cluster -/

theorem Advances.made (advances : Advances initial built store after) :
    IsMade initial built after := by
  cases advances with
  | created => exact ⟨built, Or.inl rfl, rfl⟩
  | settled serves => exact ⟨_, Or.inr ⟨_, serves, rfl⟩, rfl⟩

theorem IsMade.later (made : IsMade initial built store)
    (later : Relation.ReflTransGen (Advances initial built) store after) :
    IsMade initial built after := by
  cases later with
  | refl => exact made
  | tail _ last => exact last.made

theorem initial_or_made (later : Relation.ReflTransGen (Advances initial built) initial store) :
    store = initial ∨ IsMade initial built store := by
  cases later with
  | refl => exact Or.inl rfl
  | tail _ last => exact Or.inr last.made

theorem IsSettled.made {object : Capability} (settled : IsSettled initial built store object) :
    IsMade initial built store := by
  obtain ⟨status, serves, isObject, isStore⟩ := settled
  exact ⟨object, Or.inr ⟨status, serves, isObject⟩, isStore⟩

theorem IsSettled.key_eq {object : Capability} (settled : IsSettled initial built store object) :
    key object = key built := by
  obtain ⟨_, _, rfl, _⟩ := settled
  rfl

theorem put_ne_initial {version : Capability} (free : initial.find? (key version) = none) :
    initial.put version ≠ initial := by
  intro same
  have there : version ∈ initial.objects :=
    same ▸ Store.mem_put_self
  exact Store.find?_eq_none_iff.mp free version there rfl

/-- What is settled is final. -/
theorem IsSettled.later {object : Capability} (free : initial.find? (key built) = none)
    (unsettled : built.status = none) (settled : IsSettled initial built store object)
    (later : Relation.ReflTransGen (Advances initial built) store after) :
    IsSettled initial built after object := by
  induction later with
  | refl => exact settled
  | tail _ last inductionHypothesis =>
      obtain ⟨status, _, rfl, isStore⟩ := inductionHypothesis
      have notThere : initial.find? (key { built with status := some status }) = none := free
      cases last with
      | created => exact absurd isStore.symm (put_ne_initial notThere)
      | settled serves =>
          -- What is advanced from has no status yet.
          have there : built ∈ (initial.put { built with status := some status }).objects :=
            isStore ▸ Store.mem_put_self
          rcases Store.mem_put_iff.mp there with isObject | ⟨_, otherKey⟩
          · have sameStatus : built.status = some status := congrArg Capability.status isObject
            rw [unsettled] at sameStatus
            cases sameStatus
          · exact absurd rfl otherKey

end Stages

/-! ## What a call finds at each stage -/

/-- There is room for a capability, nothing is found in its place, and it will do. -/
structure Vacancy (requirement : Requirement) (lookup : Lookup) (built : Capability)
    (initial : Store Capability) : Prop where
  free : initial.find? (key built) = none
  unmatched : ∀ capability ∈ initial.objects, lookup.matchesCapability capability = false
  matched : lookup.matchesCapability built = true
  valid : built.validate requirement = .ok ()
  housed : built.home ≠ ""
  unsettled : built.status = none

namespace Vacancy

variable {requirement : Requirement} {lookup : Lookup} {built version : Capability}
  {initial store after : Store Capability} {defaults : Defaults}

theorem phase_built (vacancy : Vacancy requirement lookup built initial) :
    built.phase = .requested := by
  rw [Capability.phase, vacancy.unsettled]
  rfl

private theorem valid_version (vacancy : Vacancy requirement lookup built initial)
    (isVersion : version.IsVersionOf built) : version.validate requirement = .ok () :=
  (Capability.validate_congr isVersion.labels_eq).mpr vacancy.valid

theorem firstIn_initial (vacancy : Vacancy requirement lookup built initial) :
    lookup.firstIn initial = none :=
  Lookup.firstIn_eq_none_iff.mpr vacancy.unmatched

theorem firstIn_put (vacancy : Vacancy requirement lookup built initial)
    (isVersion : version.IsVersionOf built) :
    lookup.firstIn (initial.put version) = some version := by
  have matched : lookup.matchesCapability version = true := by
    rw [Lookup.matchesCapability_congr isVersion.key_eq isVersion.labels_eq]
    exact vacancy.matched
  apply Lookup.firstIn_eq_some_of_least Store.mem_put_self matched
  intro other member otherMatched
  rcases Store.mem_put_iff.mp member with isVersion | ⟨inInitial, _⟩
  · exact Or.inl isVersion
  · rw [vacancy.unmatched other inInitial] at otherMatched
    cases otherMatched

/-- Under the key of the capability there is only the capability. -/
theorem eq_of_key (vacancy : Vacancy requirement lookup built initial) {object : Capability}
    (member : object ∈ (initial.put version).objects) (sameKey : key object = key built) :
    object = version := by
  rcases Store.mem_put_iff.mp member with isObject | ⟨inInitial, _⟩
  · exact isObject
  · exact absurd sameKey (Store.find?_eq_none_iff.mp vacancy.free object inInitial)

theorem eq_of_put_eq (vacancy : Vacancy requirement lookup built initial) {other : Capability}
    (isVersion : version.IsVersionOf built) (same : initial.put version = initial.put other) :
    version = other := by
  have there : version ∈ (initial.put other).objects := same ▸ Store.mem_put_self
  exact vacancy.eq_of_key there isVersion.key_eq

/-- The controller only ever settles the capability that was created. -/
theorem requested_of_settles (vacancy : Vacancy requirement lookup built initial)
    (later : Relation.ReflTransGen (Advances initial built) initial store)
    (settles : Settles initial store after) :
    store = initial.put built ∧ ∃ status : CapabilityStatus, status.Serves ∧
      after = initial.put { built with status := some status } := by
  obtain ⟨capability, member, status, added, requested, serves, rfl⟩ := settles
  rcases initial_or_made later with rfl | ⟨version, isVersion, rfl⟩
  · exact absurd rfl (Store.find?_eq_none_iff.mp added capability member)
  · rcases Store.mem_put_iff.mp member with rfl | ⟨inInitial, _⟩
    · rcases isVersion with rfl | ⟨other, otherServes, rfl⟩
      · exact ⟨rfl, status, serves, Store.put_put_of_key_eq initial capability
          { capability with status := some status } rfl⟩
      · have successful : other.phase = .requested := requested
        rw [otherServes.1] at successful
        cases successful
    · exact absurd rfl (Store.find?_eq_none_iff.mp added capability inInitial)

theorem advances_of_settles (vacancy : Vacancy requirement lookup built initial)
    (later : Relation.ReflTransGen (Advances initial built) initial store)
    (settles : Settles initial store after) : Advances initial built store after := by
  obtain ⟨rfl, status, serves, rfl⟩ := vacancy.requested_of_settles later settles
  exact .settled serves

end Vacancy

/-! ## The parts of a call -/

namespace Provision

variable {requirement : Requirement} {lookup : Lookup} {built version : Capability}
  {initial store : Store Capability} {defaults : Defaults} {timeout : Duration}

/-- Once the capability is there, a wait for it ends with the settled one. -/
theorem secures_settled (vacancy : Vacancy requirement lookup built initial)
    (isVersion : version.IsVersionOf built) (made : IsMade initial built store) :
    Secures (sharedCluster defaults initial) (Relation.ReflTransGen (Advances initial built))
      (IsSettled initial built) (settled version timeout) store := by
  have sameHome : version.home = built.home := congrArg ObjectKey.namespaceName isVersion.key_eq
  have sameName : version.name = built.name := congrArg ObjectKey.name isVersion.key_eq
  apply secures_bind fun after answer => ∃ object, answer = .met object ∧
    IsSettled initial built after object
  · rw [sameHome, sameName]
    apply secures_ask
    · intro reached later
      obtain ⟨current, isCurrent, rfl⟩ := made.later later
      have there : current ∈ (initial.put current).objects := Store.mem_put_self
      -- Until the capability is settled no answer comes, but then the controller can act.
      rcases isCurrent with rfl | ⟨status, serves, rfl⟩
      · exact Or.inr ⟨_, current, there, .serving "b", vacancy.free, vacancy.phase_built,
          CapabilityStatus.serves_serving (by decide), rfl⟩
      · have terminal : status.phase.isTerminal = true := by rw [serves.1, Phase.isTerminal]
        exact Or.inl ⟨_, _, ⟨_, there, rfl, terminal, rfl⟩, rfl⟩
    · rintro reached answer after later ⟨⟨object, member, sameKey, terminal, rfl⟩, rfl⟩
      refine ⟨.refl, object, rfl, ?_⟩
      obtain ⟨current, isCurrent, rfl⟩ := made.later later
      obtain rfl := vacancy.eq_of_key member sameKey
      rcases isCurrent with rfl | ⟨status, serves, rfl⟩
      · rw [vacancy.phase_built] at terminal
        cases terminal
      · exact ⟨status, serves, rfl, rfl⟩
  · rintro _ after ⟨object, rfl, isSettled⟩
    exact secures_pure isSettled

/-- A result for the capability, which is there as it was settled. -/
def IsFor (initial : Store Capability) (built : Capability) (store : Store Capability)
    (result : ProvisionResult) : Prop :=
  IsSettled initial built store result.capability

private theorem secures_result (vacancy : Vacancy requirement lookup built initial) {object : Capability}
    (isSettled : IsSettled initial built store object) :
    Secures (sharedCluster defaults initial) (Relation.ReflTransGen (Advances initial built))
      (IsFor initial built) (orEnd (ProvisionResult.ofCapability object)) store := by
  obtain ⟨status, serves, rfl, isStore⟩ := isSettled
  obtain ⟨result, given, same⟩ := ProvisionResult.ofCapability_of_serves built serves vacancy.housed
  exact secures_orEnd given ⟨status, serves, same, same ▸ isStore⟩

private theorem secures_useExisting (vacancy : Vacancy requirement lookup built initial)
    (isVersion : version.IsVersionOf built) :
    Secures (sharedCluster defaults initial) (Relation.ReflTransGen (Advances initial built))
      (IsFor initial built) (useExisting requirement timeout version) (initial.put version) := by
  apply secures_orEnd_bind (vacancy.valid_version isVersion)
  rcases isVersion with rfl | ⟨status, serves, rfl⟩
  · have pending : ¬ version.phase.isTerminal = true := by
      rw [vacancy.phase_built]
      decide
    simp only [if_neg pending]
    apply secures_bind (IsSettled initial version)
      (secures_settled vacancy (Or.inl rfl) ⟨version, Or.inl rfl, rfl⟩)
    intro object after isSettled
    exact secures_result vacancy isSettled
  · have terminal : Capability.phase { built with status := some status } = .successful := serves.1
    simp only [terminal, Phase.isTerminal, if_true, pure_bind]
    exact secures_result vacancy ⟨status, serves, rfl, rfl⟩

/-- What the callers wait for: the capability, once it is there. -/
def IsThere (initial : Store Capability) (built : Capability) (store : Store Capability)
    (target : Capability) : Prop :=
  target.IsVersionOf built ∧ IsMade initial built store

private theorem secures_adopt (vacancy : Vacancy requirement lookup built initial)
    (made : IsMade initial built store) :
    Secures (sharedCluster defaults initial) (Relation.ReflTransGen (Advances initial built))
      (IsThere initial built) (adopt requirement built) store := by
  apply secures_bind fun after answer => ∃ existing, answer = .ok (some existing) ∧
    IsThere initial built after existing
  · apply secures_read
    · exact fun reached _ => ⟨_, rfl, rfl⟩
    · exact fun reached answer after replied => replied.2
    · rintro reached answer later ⟨rfl, _⟩
      obtain ⟨current, isCurrent, rfl⟩ := made.later later
      have found := isCurrent.find?_put initial
      exact ⟨current, congrArg Except.ok found, isCurrent, current, isCurrent, rfl⟩
  · rintro _ after ⟨existing, rfl, isThere⟩
    apply secures_orFail_bind rfl
    apply secures_orEnd_bind (vacancy.valid_version isThere.1)
    exact secures_pure isThere

private theorem secures_createOrAdopt (vacancy : Vacancy requirement lookup built initial)
    (later : Relation.ReflTransGen (Advances initial built) initial store) :
    Secures (sharedCluster defaults initial) (Relation.ReflTransGen (Advances initial built))
      (IsThere initial built) (createOrAdopt requirement built) store := by
  apply secures_bind fun after answer => IsMade initial built after ∧
    (answer = .ok built ∨ answer = .error (.server (.refused (Store.takenResponse built.name))))
  · apply secures_ask
    · intro reached since
      rcases initial_or_made (later.trans since) with rfl | ⟨current, isCurrent, rfl⟩
      · exact Or.inl ⟨_, _, (replies_create_of_free defaults vacancy.free).mpr ⟨rfl, rfl⟩⟩
      · have taken := isCurrent.find?_put initial
        exact Or.inl ⟨_, _, (replies_create_of_taken defaults taken).mpr ⟨rfl, rfl⟩⟩
    · intro reached answer after since replied
      rcases initial_or_made (later.trans since) with rfl | ⟨current, isCurrent, rfl⟩
      · obtain ⟨rfl, rfl⟩ := (replies_create_of_free defaults vacancy.free).mp replied
        exact ⟨.single .created, ⟨built, Or.inl rfl, rfl⟩, Or.inl rfl⟩
      · have taken := isCurrent.find?_put initial
        obtain ⟨rfl, rfl⟩ := (replies_create_of_taken defaults taken).mp replied
        exact ⟨.refl, ⟨current, isCurrent, rfl⟩, Or.inr rfl⟩
  · rintro answer after ⟨made, rfl | rfl⟩
    · exact secures_pure ⟨Or.inl rfl, made⟩
    · exact secures_adopt vacancy made

private theorem secures_awaitCreated (vacancy : Vacancy requirement lookup built initial)
    (isThere : IsThere initial built store version) :
    Secures (sharedCluster defaults initial) (Relation.ReflTransGen (Advances initial built))
      (IsFor initial built) (awaitCreated lookup timeout version) store := by
  apply secures_bind (IsSettled initial built) (secures_settled vacancy isThere.1 isThere.2)
  intro object after isSettled
  have notFailed : object.phase ≠ .failed := by
    obtain ⟨status, serves, rfl, _⟩ := isSettled
    show status.phase ≠ .failed
    rw [serves.1]
    decide
  simp only [if_neg notFailed]
  apply secures_bind fun reached found? => ∃ object, found? = some object ∧
    IsSettled initial built reached object
  · apply secures_find
    intro reached later
    have stillSettled := isSettled.later vacancy.free vacancy.unsettled later
    obtain ⟨status, serves, rfl, rfl⟩ := stillSettled
    exact ⟨_, vacancy.firstIn_put (Or.inr ⟨status, serves, rfl⟩), status, serves, rfl, rfl⟩
  · rintro _ last ⟨resolved, rfl, isLast⟩
    exact secures_result vacancy isLast

/-- Every call ends with a result for the capability, whenever it starts. -/
theorem secures_provideBy {operatorNamespace : String} {serial : Serial} {requester : Requester}
    (vacancy : Vacancy requirement lookup built initial)
    (placed : Placement.build requester requirement defaults operatorNamespace serial = .ok built) :
    Secures (sharedCluster defaults initial) (Relation.ReflTransGen (Advances initial built))
      (IsFor initial built)
      (provideBy operatorNamespace serial requester requirement timeout lookup) initial := by
  apply secures_bind fun after found? =>
    Relation.ReflTransGen (Advances initial built) initial after ∧
      ∀ found, found? = some found → found.IsVersionOf built ∧ after = initial.put found
  · apply secures_find
    intro reached later
    refine ⟨later, ?_⟩
    intro found isFound
    rcases initial_or_made later with rfl | ⟨current, isCurrent, rfl⟩
    · rw [vacancy.firstIn_initial] at isFound
      cases isFound
    · rw [vacancy.firstIn_put isCurrent, Option.some.injEq] at isFound
      subst isFound
      exact ⟨isCurrent, rfl⟩
  · rintro found? after ⟨later, found⟩
    cases found? with
    | some existing =>
        obtain ⟨isVersion, rfl⟩ := found existing rfl
        exact secures_useExisting vacancy isVersion
    | none =>
        apply secures_bind fun reached answer => answer = .ok defaults ∧
          Relation.ReflTransGen (Advances initial built) initial reached
        · apply secures_read
          · exact fun reached _ => ⟨_, rfl, rfl⟩
          · exact fun reached answer last replied => replied.2
          · exact fun reached answer since replied => ⟨replied.1, later.trans since⟩
        · rintro _ reached ⟨rfl, since⟩
          apply secures_orFail_bind rfl
          apply secures_orEnd_bind placed
          apply secures_bind (IsThere initial built) (secures_createOrAdopt vacancy since)
          intro target last isThere
          exact secures_awaitCreated vacancy isThere

end Provision

end Provisioning
