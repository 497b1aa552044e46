import Mathlib.Algebra.Order.BigOperators.Group.Finset
import Provisioning.Proofs.CallCount
import Provisioning.Proofs.Vacancy

/-!
# Agreement of callers

Any number of callers with one requirement.  When they belong together, they all look the same
thing up and would all create the same capability; each of them puts up with what the others do,
so that all their calls end well, in any order.

Main statement: one capability is created, by one of them, and all of them get it
(`provide_agreement`).
-/

namespace Provisioning

open ClusterObject

/-! ## Callers that belong together -/

namespace Requirement

/-- Two requesters would share what is provided for the requirement. -/
def Unites (requirement : Requirement) (one other : Requester) : Prop :=
  match requirement.effectiveScope with
  | .dedicated => one = other
  | .specified => ∃ target, Lookup.specifiedTarget one requirement = .ok target ∧
      Lookup.specifiedTarget other requirement = .ok target
  | .labeled => False
  | .namespaced => one.namespaceName = other.namespaceName
  | .cluster => True

variable {requirement : Requirement} {one other : Requester}

theorem Unites.not_labeled (unites : requirement.Unites one other) :
    requirement.effectiveScope ≠ .labeled := by
  intro labeled
  simp only [Unites, labeled] at unites

theorem Unites.plan_eq (unites : requirement.Unites one other) :
    ∃ lookup, Lookup.plan one requirement = .ok lookup ∧
      Lookup.plan other requirement = .ok lookup := by
  unfold Unites at unites
  unfold Lookup.plan
  cases scope : requirement.effectiveScope with
  | dedicated =>
      simp only [scope] at unites
      subst unites
      exact ⟨_, rfl, rfl⟩
  | specified =>
      simp only [scope] at unites
      obtain ⟨target, ofOne, ofOther⟩ := unites
      simp only [ofOne, ofOther]
      exact ⟨_, rfl, rfl⟩
  | labeled => simp only [scope] at unites
  | namespaced =>
      simp only [scope] at unites
      rw [unites]
      exact ⟨_, rfl, rfl⟩
  | cluster => exact ⟨_, rfl, rfl⟩

theorem Unites.build_eq (unites : requirement.Unites one other) (defaults : Defaults)
    (operatorNamespace : String) (serial otherSerial : Serial) :
    ∃ built,
      Placement.build one requirement defaults operatorNamespace serial = .ok built ∧
        Placement.build other requirement defaults operatorNamespace otherSerial = .ok built := by
  have placed : ∃ target,
      Placement.place one requirement defaults operatorNamespace serial = .ok target ∧
        Placement.place other requirement defaults operatorNamespace otherSerial = .ok target := by
    unfold Unites at unites
    unfold Placement.place
    cases scope : requirement.effectiveScope with
    | dedicated =>
        simp only [scope] at unites
        subst unites
        exact ⟨_, rfl, rfl⟩
    | specified =>
        simp only [scope] at unites
        exact unites
    | labeled => simp only [scope] at unites
    | namespaced =>
        simp only [scope] at unites
        rw [unites]
        exact ⟨_, rfl, rfl⟩
    | cluster => exact ⟨_, rfl, rfl⟩
  obtain ⟨⟨namespaceName, name⟩, ofOne, ofOther⟩ := placed
  exact ⟨_, Placement.build_eq_ok_iff.mpr ⟨_, _, ofOne, rfl⟩,
    Placement.build_eq_ok_iff.mpr ⟨_, _, ofOther, rfl⟩⟩

end Requirement

/-- What is built lives in a namespace, if the requester and the operator do. -/
theorem Placement.home_of_build {requester : Requester} {requirement : Requirement}
    {defaults : Defaults} {operatorNamespace : String} {serial : Serial} {built : Capability}
    (placed : build requester requirement defaults operatorNamespace serial = .ok built)
    (housed : requester.namespaceName ≠ "") (operatorHoused : operatorNamespace ≠ "") :
    built.home ≠ "" := by
  have atPlace := key_of_build placed
  unfold place at atPlace
  cases scope : requirement.effectiveScope with
  | dedicated =>
      simp only [scope, Except.ok.injEq, Prod.mk.injEq] at atPlace
      rw [← atPlace.1]
      exact housed
  | specified =>
      simp only [scope] at atPlace
      obtain ⟨_, _, _, _, homed, _⟩ := Lookup.specifiedTarget_eq_ok_iff.mp atPlace
      exact homed
  | labeled =>
      simp only [scope, Except.ok.injEq, Prod.mk.injEq] at atPlace
      rw [← atPlace.1]
      exact housed
  | namespaced =>
      simp only [scope, Except.ok.injEq, Prod.mk.injEq] at atPlace
      rw [← atPlace.1]
      exact housed
  | cluster =>
      simp only [scope, Except.ok.injEq, Prod.mk.injEq] at atPlace
      rw [← atPlace.1]
      cases set : defaults.get? (baseName requirement ++ "-namespace") with
      | none => exact operatorHoused
      | some namespaceName => exact (nonEmpty?_eq_some_iff.mp set).1

namespace Provision

/-- Who calls, and what a call draws and how long it waits. -/
structure Caller where
  requester : Requester
  serial : Serial
  timeout : Duration

variable {ι : Type}

/-- The calls for one requirement before any of them has begun. -/
def gathering (operatorNamespace : String) (requirement : Requirement) (callers : ι → Caller)
    (initial : Store Capability) :
    Crowd ι CapabilityCall CapabilityCall.Answer (Except ProvisioningError ProvisionResult)
      (Store Capability) where
  programs index := provide operatorNamespace (callers index).serial (callers index).requester
    requirement (callers index).timeout
  shared := initial

/-- Callers who belong together, and nothing there that they look up or in the place of what they
would create. -/
structure Rivals (operatorNamespace : String) (defaults : Defaults) (requirement : Requirement)
    (callers : ι → Caller) (initial : Store Capability) : Prop where
  united : ∀ one other, requirement.Unites (callers one).requester (callers other).requester
  housed : ∀ index, (callers index).requester.namespaceName ≠ ""
  operatorHoused : operatorNamespace ≠ ""
  unmatched : ∀ index lookup, Lookup.plan (callers index).requester requirement = .ok lookup →
    lookup.firstIn initial = none
  free : ∀ index built,
    Placement.build (callers index).requester requirement defaults operatorNamespace
      (callers index).serial = .ok built → initial.find? (key built) = none

/-- All callers look the same thing up, and would create the same capability. -/
def Concur (operatorNamespace : String) (defaults : Defaults) (requirement : Requirement)
    (callers : ι → Caller) (lookup : Lookup) (built : Capability) : Prop :=
  ∀ index, Lookup.plan (callers index).requester requirement = .ok lookup ∧
    Placement.build (callers index).requester requirement defaults operatorNamespace
      (callers index).serial = .ok built

variable {operatorNamespace : String} {defaults : Defaults} {requirement : Requirement}
  {callers : ι → Caller} {initial : Store Capability}

theorem Rivals.vacancy (rivals : Rivals operatorNamespace defaults requirement callers initial)
    (one : ι) : ∃ lookup built, Vacancy requirement lookup built initial ∧
      Concur operatorNamespace defaults requirement callers lookup built := by
  obtain ⟨lookup, planned, _⟩ := (rivals.united one one).plan_eq
  obtain ⟨built, placed, _⟩ := (rivals.united one one).build_eq defaults operatorNamespace
    (callers one).serial (callers one).serial
  have vacancy : Vacancy requirement lookup built initial :=
    { free := rivals.free one built placed
      unmatched := Lookup.firstIn_eq_none_iff.mp (rivals.unmatched one lookup planned)
      matched :=
        Placement.matchesCapability_build planned placed (rivals.united one one).not_labeled
      valid := Placement.validate_build placed
      housed := Placement.home_of_build placed (rivals.housed one) rivals.operatorHoused
      unsettled := Placement.status_of_build placed }
  refine ⟨lookup, built, vacancy, ?_⟩
  intro index
  obtain ⟨shared, ofOne, ofIndex⟩ := (rivals.united one index).plan_eq
  obtain ⟨sharedBuilt, builtByOne, builtByIndex⟩ := (rivals.united one index).build_eq defaults
    operatorNamespace (callers one).serial (callers index).serial
  rw [planned, Except.ok.injEq] at ofOne
  rw [placed, Except.ok.injEq] at builtByOne
  exact ⟨ofOne ▸ ofIndex, builtByOne ▸ builtByIndex⟩

/-! ## Counting creations -/

/-- Whether an answer says that a capability was created. -/
def creates : (request : CapabilityCall) → request.Answer → Bool
  | .create _, .ok _ => true
  | _, _ => false

/-- Whether an event is a creation. -/
def isCreation : Crowd.Event ι CapabilityCall CapabilityCall.Answer → Bool
  | .answered _ request answer => creates request answer
  | .acted => false

/-- The stages of the cluster, by how often a capability was created and how often the controller
acted. -/
inductive Stage (initial : Store Capability) (built : Capability) :
    Store Capability → Nat → Nat → Prop where
  | absent : Stage initial built initial 0 0
  | requested : Stage initial built (initial.put built) 1 0
  | settled {status : CapabilityStatus} {acts : Nat} (serves : status.Serves) (once : acts ≤ 1) :
      Stage initial built (initial.put { built with status := some status }) 1 acts

variable {lookup : Lookup} {built : Capability} {before after : Store Capability}
  {creations acts : Nat}

/-- Only a creation changes what is there. -/
theorem replies_of_not_creates {request : CapabilityCall} {answer : request.Answer}
    (replied : Replies defaults before request answer after)
    (notCreated : creates request answer = false) : after = before := by
  cases request with
  | get namespaceName name => exact replied.2
  | listIn namespaceName labels => exact replied.2
  | listAll labels => exact replied.2
  | loadDefaults => exact replied.2
  | awaitSettled namespaceName name timeout => exact replied.2
  | create capability =>
      cases answer with
      | ok created => cases notCreated
      | error failure =>
          cases taken : before.find? (key capability) with
          | none =>
              cases ((replies_create_of_free defaults taken).mp replied).1
          | some other => exact ((replies_create_of_taken defaults taken).mp replied).2

private theorem exists_create_of_creates {request : CapabilityCall} {answer : request.Answer}
    (created : creates request answer = true) : ∃ capability, request = .create capability := by
  cases request with
  | create capability => exact ⟨capability, rfl⟩
  | get namespaceName name => cases created
  | listIn namespaceName labels => cases created
  | listAll labels => cases created
  | loadDefaults => cases created
  | awaitSettled namespaceName name timeout => cases created

/-- A creation is the first one, and of the capability that was built. -/
theorem replies_of_creates (vacancy : Vacancy requirement lookup built initial)
    {request : CapabilityCall} {answer : request.Answer}
    (later : Relation.ReflTransGen (Advances initial built) initial before)
    (goesOn : Relation.ReflTransGen (Advances initial built) before after)
    (replied : Replies defaults before request answer after)
    (created : creates request answer = true) :
    before = initial ∧ IsMade initial built after ∧
      ∃ capability, request = .create capability ∧ key capability = key built := by
  obtain ⟨capability, rfl⟩ := exists_create_of_creates created
  have free : before.find? (key capability) = none := by
    cases taken : before.find? (key capability) with
    | none => rfl
    | some other =>
        rw [((replies_create_of_taken defaults taken).mp replied).1] at created
        cases created
  obtain rfl := ((replies_create_of_free defaults free).mp replied).2
  have there : capability ∈ (before.put capability).objects := Store.mem_put_self
  rcases initial_or_made later with rfl | ⟨current, isCurrent, rfl⟩
  · rcases initial_or_made goesOn with same | made
    · exact absurd same (put_ne_initial free)
    · refine ⟨rfl, made, capability, rfl, ?_⟩
      obtain ⟨version, isVersion, same⟩ := made
      rw [same] at there
      rcases Store.mem_put_iff.mp there with rfl | ⟨inInitial, _⟩
      · exact isVersion.key_eq
      · exact absurd rfl (Store.find?_eq_none_iff.mp free capability inInitial)
  -- Once the capability is there, neither its name nor that of anything older is free.
  · obtain ⟨version, isVersion, same⟩ := IsMade.later ⟨current, isCurrent, rfl⟩ goesOn
    rw [same] at there
    rcases Store.mem_put_iff.mp there with rfl | ⟨inInitial, otherKey⟩
    · rw [isVersion.key_eq, isCurrent.find?_put] at free
      cases free
    · rw [isVersion.key_eq, ← isCurrent.key_eq] at otherKey
      have inBefore := Store.mem_put_iff.mpr (Or.inr ⟨inInitial, otherKey⟩)
      exact absurd rfl (Store.find?_eq_none_iff.mp free capability inBefore)

theorem Stage.answered (vacancy : Vacancy requirement lookup built initial)
    (stage : Stage initial built before creations acts) {request : CapabilityCall}
    {answer : request.Answer}
    (later : Relation.ReflTransGen (Advances initial built) initial before)
    (goesOn : Relation.ReflTransGen (Advances initial built) before after)
    (replied : Replies defaults before request answer after) :
    Stage initial built after (creations + if creates request answer then 1 else 0) acts := by
  cases created : creates request answer with
  | false =>
      rw [replies_of_not_creates replied created]
      exact stage
  | true =>
      obtain ⟨isInitial, ⟨version, isVersion, rfl⟩, _⟩ :=
        replies_of_creates vacancy later goesOn replied created
      cases stage with
      | absent =>
          rcases isVersion with rfl | ⟨status, serves, rfl⟩
          · exact .requested
          · exact .settled serves (Nat.zero_le 1)
      | requested => exact absurd isInitial (put_ne_initial vacancy.free)
      | settled serves once => exact absurd isInitial (put_ne_initial vacancy.free)

theorem Stage.acted (vacancy : Vacancy requirement lookup built initial)
    (stage : Stage initial built before creations acts)
    (later : Relation.ReflTransGen (Advances initial built) initial before)
    (settles : Settles initial before after) :
    Stage initial built after creations (acts + 1) := by
  obtain ⟨isRequested, status, serves, rfl⟩ := vacancy.requested_of_settles later settles
  cases stage with
  | absent => exact absurd isRequested.symm (put_ne_initial vacancy.free)
  | requested => exact .settled serves (Nat.le_refl 1)
  | @settled other _ otherServes once =>
      -- What the controller settles has no status yet.
      have same := vacancy.eq_of_put_eq (Or.inr ⟨other, otherServes, rfl⟩) isRequested
      have unsettled := vacancy.unsettled
      rw [← same] at unsettled
      cases unsettled

private theorem Stage.creations_le_one (stage : Stage initial built before creations acts) :
    creations ≤ 1 := by
  cases stage with
  | absent => exact Nat.zero_le 1
  | requested => exact Nat.le_refl 1
  | settled serves once => exact Nat.le_refl 1

private theorem Stage.acts_le_one (stage : Stage initial built before creations acts) : acts ≤ 1 := by
  cases stage with
  | absent => exact Nat.zero_le 1
  | requested => exact Nat.zero_le 1
  | settled serves once => exact once

/-- Where the capability is, it was created. -/
theorem Stage.creations_eq_one (vacancy : Vacancy requirement lookup built initial)
    (stage : Stage initial built before creations acts) (made : IsMade initial built before) :
    creations = 1 := by
  cases stage with
  | absent =>
      obtain ⟨version, isVersion, same⟩ := made
      have free : initial.find? (key version) = none := isVersion.key_eq ▸ vacancy.free
      exact absurd same.symm (put_ne_initial free)
  | requested => rfl
  | settled serves once => rfl

/-! ## All calls together -/

/-- A call has ended with a result for the capability. -/
def EndsFor (initial : Store Capability) (built : Capability) (store : Store Capability)
    (outcome : Except ProvisioningError ProvisionResult) : Prop :=
  ∃ result, outcome = .ok result ∧ IsFor initial built store result

section Gathering

variable [DecidableEq ι]
  {trace : List (Crowd.Event ι CapabilityCall CapabilityCall.Answer)}
  {crowd : Crowd ι CapabilityCall CapabilityCall.Answer (Except ProvisioningError ProvisionResult)
    (Store Capability)}

/-- Every call is secure to the end of a run. -/
theorem secure_of_gathering (vacancy : Vacancy requirement lookup built initial)
    (concur : Concur operatorNamespace defaults requirement callers lookup built)
    (run : Crowd.Run (sharedCluster defaults initial)
      (gathering operatorNamespace requirement callers initial) trace crowd) :
    Relation.ReflTransGen (Advances initial built) initial crowd.shared ∧
      ∀ index, (crowd.programs index).Secure (sharedCluster defaults initial)
        (Relation.ReflTransGen (Advances initial built)) (EndsFor initial built) crowd.shared := by
  apply Crowd.secure_of_run (fun _ => .refl) (fun _ _ _ => .trans) ?_ ?_ ?_ run
  · rintro _ before after _ goesOn ⟨result, rfl, isFor⟩
    exact ⟨result, rfl, isFor.later vacancy.free vacancy.unsettled goesOn⟩
  · intro before after later settles
    exact .single (vacancy.advances_of_settles later settles)
  · intro index
    obtain ⟨planned, placed⟩ := concur index
    simp only [gathering, provide, planned]
    exact secures_provideBy vacancy placed

/-- An answer to one of the calls moves the cluster along its stages. -/
theorem advances_of_answered (vacancy : Vacancy requirement lookup built initial)
    (concur : Concur operatorNamespace defaults requirement callers lookup built)
    (run : Crowd.Run (sharedCluster defaults initial)
      (gathering operatorNamespace requirement callers initial) trace crowd) {index : ι}
    {request : CapabilityCall} {answer : request.Answer} {after : Store Capability}
    {next : request.Answer → CapabilityProgram (Except ProvisioningError ProvisionResult)}
    (calls : crowd.programs index = .call request next)
    (replied : Replies defaults crowd.shared request answer after) :
    Relation.ReflTransGen (Advances initial built) crowd.shared after := by
  have secureCall := (secure_of_gathering vacancy concur run).2 index
  rw [calls] at secureCall
  exact ((secureCall crowd.shared .refl).2 answer after replied).1

/-- At the end of a run the cluster is at the stage that the creations and acts say. -/
theorem stage_of_gathering (vacancy : Vacancy requirement lookup built initial)
    (concur : Concur operatorNamespace defaults requirement callers lookup built)
    (run : Crowd.Run (sharedCluster defaults initial)
      (gathering operatorNamespace requirement callers initial) trace crowd) :
    Stage initial built crowd.shared (trace.countP isCreation)
      (trace.countP Crowd.Event.isAct) := by
  induction run with
  | start => exact .absent
  | @step trace event middle finish before step inductionHypothesis =>
      have later := (secure_of_gathering vacancy concur before).1
      rw [List.countP_cons, List.countP_cons]
      cases step with
      | acted settles => exact inductionHypothesis.acted vacancy later settles
      | answered calls replied =>
          have goesOn := advances_of_answered vacancy concur before calls replied
          exact inductionHypothesis.answered vacancy later goesOn replied

/-- Whatever is created in a run has the key of the capability. -/
theorem key_of_gathering (vacancy : Vacancy requirement lookup built initial)
    (concur : Concur operatorNamespace defaults requirement callers lookup built)
    (run : Crowd.Run (sharedCluster defaults initial)
      (gathering operatorNamespace requirement callers initial) trace crowd) {index : ι}
    {capability written : Capability}
    (created : .answered index (.create capability) (.ok written) ∈ trace) :
    key capability = key built := by
  induction run with
  | start => cases created
  | @step trace event middle finish before step inductionHypothesis =>
      rcases List.mem_cons.mp created with rfl | inTrace
      · have later := (secure_of_gathering vacancy concur before).1
        cases step with
        | @answered _ _ _ _ after calls replied =>
            have goesOn := advances_of_answered vacancy concur before calls replied
            have isReply :
                Replies defaults middle.shared (.create capability) (.ok written) after := replied
            obtain ⟨_, _, _, isCreated, sameKey⟩ :=
              replies_of_creates vacancy later goesOn isReply rfl
            cases isCreated
            exact sameKey
      · exact inductionHypothesis inTrace

/-- What a call ends with is a result for the capability, which is there as it was settled. -/
theorem settled_of_gathering (vacancy : Vacancy requirement lookup built initial)
    (concur : Concur operatorNamespace defaults requirement callers lookup built)
    (run : Crowd.Run (sharedCluster defaults initial)
      (gathering operatorNamespace requirement callers initial) trace crowd) {index : ι}
    {outcome : Except ProvisioningError ProvisionResult}
    (program : crowd.programs index = .done outcome) :
    ∃ result, outcome = .ok result ∧ IsSettled initial built crowd.shared result.capability := by
  have secureCall := (secure_of_gathering vacancy concur run).2 index
  rw [program] at secureCall
  exact secureCall

private theorem ended_of_gathering (vacancy : Vacancy requirement lookup built initial)
    (concur : Concur operatorNamespace defaults requirement callers lookup built)
    (run : Crowd.Run (sharedCluster defaults initial)
      (gathering operatorNamespace requirement callers initial) trace crowd) {index : ι}
    {outcome : Except ProvisioningError ProvisionResult}
    (program : crowd.programs index = .done outcome) :
    ∃ result, outcome = .ok result ∧ IsMade initial built crowd.shared ∧
      key result.capability = key built := by
  obtain ⟨result, given, isSettled⟩ := settled_of_gathering vacancy concur run program
  exact ⟨result, given, isSettled.made, isSettled.key_eq⟩

/-- A call that has not ended can go on, or the controller can. -/
theorem progress_of_gathering (vacancy : Vacancy requirement lookup built initial)
    (concur : Concur operatorNamespace defaults requirement callers lookup built)
    (run : Crowd.Run (sharedCluster defaults initial)
      (gathering operatorNamespace requirement callers initial) trace crowd) (index : ι) :
    (∃ outcome, crowd.programs index = .done outcome) ∨
      ∃ event after, Crowd.Step (sharedCluster defaults initial) crowd event after ∧
        (event.isOf index = true ∨ event.isAct = true) :=
  Crowd.progress_of_secure (fun _ => .refl) ((secure_of_gathering vacancy concur run).2 index)

theorem calls_of_gathering
    (run : Crowd.Run (sharedCluster defaults initial)
      (gathering operatorNamespace requirement callers initial) trace crowd) (index : ι) :
    trace.countP (Crowd.Event.isOf index) ≤ 6 := by
  obtain ⟨left, _, counted⟩ := Crowd.calls_of_run
    (callsAtMost_provide operatorNamespace (callers index).serial (callers index).requester
      requirement (callers index).timeout) run
  omega

theorem length_of_gathering [Fintype ι] (vacancy : Vacancy requirement lookup built initial)
    (concur : Concur operatorNamespace defaults requirement callers lookup built)
    (run : Crowd.Run (sharedCluster defaults initial)
      (gathering operatorNamespace requirement callers initial) trace crowd) :
    trace.length ≤ ∑ _ : ι, 6 + 1 := by
  rw [Crowd.length_eq_sum]
  have acts := (stage_of_gathering vacancy concur run).acts_le_one
  have calls := Finset.sum_le_sum fun index (_ : index ∈ Finset.univ) =>
    calls_of_gathering run index
  omega

/-- Every run of finitely many calls can be continued until all of them have ended. -/
theorem exists_end_of_vacancy [Fintype ι] (vacancy : Vacancy requirement lookup built initial)
    (concur : Concur operatorNamespace defaults requirement callers lookup built)
    (run : Crowd.Run (sharedCluster defaults initial)
      (gathering operatorNamespace requirement callers initial) trace crowd) :
    ∃ more finish, Crowd.Run (sharedCluster defaults initial)
        (gathering operatorNamespace requirement callers initial) (more ++ trace) finish ∧
      ∀ index, ∃ outcome, finish.programs index = .done outcome := by
  apply Crowd.exists_run_to_end ?_ ?_ run
  · exact ∑ _ : ι, 6 + 1
  · intro trace crowd run
    exact length_of_gathering vacancy concur run
  · intro trace crowd run
    by_cases ended : ∀ index, ∃ outcome, crowd.programs index = .done outcome
    · exact Or.inl ended
    · obtain ⟨index, pending⟩ := not_forall.mp ended
      rcases progress_of_gathering vacancy concur run index with
        done | ⟨event, after, step, _⟩
      · exact absurd done pending
      · exact Or.inr ⟨event, after, step⟩

theorem exists_end_of_gathering [Fintype ι]
    (rivals : Rivals operatorNamespace defaults requirement callers initial) (one : ι)
    (run : Crowd.Run (sharedCluster defaults initial)
      (gathering operatorNamespace requirement callers initial) trace crowd) :
    ∃ more finish, Crowd.Run (sharedCluster defaults initial)
        (gathering operatorNamespace requirement callers initial) (more ++ trace) finish ∧
      ∀ index, ∃ outcome, finish.programs index = .done outcome := by
  obtain ⟨lookup, built, vacancy, concur⟩ := rivals.vacancy one
  exact exists_end_of_vacancy vacancy concur run

/-- Whatever the order of their steps, callers who belong together agree.  Every call that has
ended gave a result for the agreed capability, and one creation succeeded by then; every other call
can go on, or the controller can.  At most one creation succeeds ever, and it is of the agreed
capability.  No call makes more than six requests, and the controller acts once at most, so that
all calls end. -/
theorem provide_agreement [Nonempty ι]
    (rivals : Rivals operatorNamespace defaults requirement callers initial)
    (run : Crowd.Run (sharedCluster defaults initial)
      (gathering operatorNamespace requirement callers initial) trace crowd) :
    ∃ agreed : ObjectKey,
      (∀ index outcome, crowd.programs index = .done outcome →
        trace.countP isCreation = 1 ∧
          ∃ result, outcome = .ok result ∧ key result.capability = agreed) ∧
      (∀ index, (∃ outcome, crowd.programs index = .done outcome) ∨
        ∃ event after, Crowd.Step (sharedCluster defaults initial) crowd event after ∧
          (event.isOf index = true ∨ event.isAct = true)) ∧
      trace.countP isCreation ≤ 1 ∧
      (∀ index capability written,
        .answered index (.create capability) (.ok written) ∈ trace → key capability = agreed) ∧
      (∀ index, trace.countP (Crowd.Event.isOf index) ≤ 6) ∧
      trace.countP Crowd.Event.isAct ≤ 1 := by
  obtain ⟨lookup, built, vacancy, concur⟩ := rivals.vacancy (Classical.arbitrary ι)
  have stage := stage_of_gathering vacancy concur run
  refine ⟨key built, ?_, progress_of_gathering vacancy concur run, stage.creations_le_one, ?_,
    calls_of_gathering run, stage.acts_le_one⟩
  · intro index outcome program
    obtain ⟨result, given, made, sameKey⟩ := ended_of_gathering vacancy concur run program
    exact ⟨stage.creations_eq_one vacancy made, result, given, sameKey⟩
  · intro index capability written created
    exact key_of_gathering vacancy concur run created

end Gathering

/-- A shop and a desk of one team that both need a database. -/
def teamCallers (isShop : Bool) : Caller :=
  ⟨⟨if isShop then "shop" else "desk", "team"⟩, 0, ⟨0⟩⟩

private theorem rivals_teamCallers :
    Rivals "operators" {} { capability := .dbms } teamCallers (.empty : Store Capability) where
  united _ _ := rfl
  housed _ := by
    show "team" ≠ ""
    decide
  operatorHoused := by decide
  unmatched _ _ _ := Lookup.firstIn_eq_none_iff.mpr fun _ member => nomatch member
  free _ _ _ := rfl

/-- The calls of both can be run to their ends; one creation succeeds, and they agree. -/
theorem provide_agreement_teamCallers :
    ∃ trace crowd, Crowd.Run (sharedCluster {} .empty)
        (gathering "operators" { capability := .dbms } teamCallers .empty) trace crowd ∧
      ∃ agreed : ObjectKey, ∀ isShop, ∃ result, crowd.programs isShop = .done (.ok result) ∧
        trace.countP isCreation = 1 ∧ key result.capability = agreed := by
  obtain ⟨trace, crowd, run, ended⟩ := exists_end_of_gathering rivals_teamCallers true .start
  obtain ⟨agreed, given, _⟩ := provide_agreement rivals_teamCallers run
  refine ⟨_, crowd, run, agreed, ?_⟩
  intro isShop
  obtain ⟨outcome, program⟩ := ended isShop
  obtain ⟨once, result, rfl, sameKey⟩ := given isShop outcome program
  exact ⟨result, program, once, sameKey⟩

end Provision

end Provisioning
