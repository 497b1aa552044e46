import Provisioning.Proofs.Isolation
import Provisioning.Proofs.TwinWaits
import Provisioning.Rehearsal.Capabilities
import Provisioning.Rehearsal.Step

/-!
# Namespaces are isolated

A requirement of dedicated or namespace scope is provided for in the requester's namespace alone: in
two clusters that look alike from there, a call for it makes the same calls and has the same outcome,
whatever is in other namespaces, whatever happens there, and whatever the operator has set.

Main statement: `provide_isolated`.
-/

namespace Provisioning.Rehearsal

open ClusterObject

variable {namespaceName : String} {more room roomRight : Nat} {one other : World Capability}

/-! ## The calls of provisioning -/

/-- Two answers show the same, and the clusters still look alike. -/
structure Answered (namespaceName : String) (more room roomRight : Nat) (request : CapabilityCall)
    (answer otherAnswer : request.Answer) (after otherAfter : World Capability) : Prop where
  shows : request.ShowsSame namespaceName answer otherAnswer
  coupled : Coupled namespaceName more room roomRight after otherAfter

private theorem meets_answer {request : CapabilityCall}
    (coupled : Coupled namespaceName more room roomRight one other)
    (inside : request.NamesOnly namespaceName) (reads : request.isCreation = false) :
    Meets (Coupled namespaceName more room roomRight)
      (Answered namespaceName more room roomRight request) (answerCapabilityCall request)
      (answerCapabilityCall request) one other := by
  cases request with
  | listAll labels => exact inside.elim
  | create capability => cases reads
  | get asked name =>
      have named : (Call.get asked name : Call Capability).NamesOnly namespaceName := inside
      refine meets_read coupled named rfl (fun coupled => ⟨⟨rfl, ?_⟩, coupled⟩) ?_
      · rintro _ ⟨⟩
      intro one other coupled
      have sameFound : one.store.find? ⟨asked, name⟩ = other.store.find? ⟨asked, name⟩ :=
        coupled.alike.store.find?_eq inside
      refine .of_ok rfl rfl ⟨⟨congrArg Except.ok sameFound, ?_⟩, coupled⟩
      intro found isFound
      have atPlace := Store.key_of_find? (Except.ok.inj isFound)
      exact (congrArg ObjectKey.namespaceName atPlace).trans inside
  | listIn asked labels =>
      have named : (Call.listIn asked labels : Call Capability).NamesOnly namespaceName := inside
      refine meets_read coupled named rfl (fun coupled => ⟨⟨rfl, ?_⟩, coupled⟩) ?_
      · rintro _ ⟨⟩
      intro one other coupled
      obtain rfl : asked = namespaceName := inside
      have sameListed := coupled.alike.store.inNamespace_eq labels
      refine .of_ok rfl rfl ⟨⟨?_, ?_⟩, coupled⟩
      · rw [sameListed]
      · intro found isFirst
        have member := Provision.mem_of_first? (Except.ok.inj isFirst)
        have wanted := (List.mem_filter.mp (List.mem_reverse.mp member)).2
        exact beq_iff_eq.mp (Bool.and_eq_true_iff.mp wanted).1
  | loadDefaults =>
      have named : (Call.loadDefaults : Call Capability).NamesOnly namespaceName := trivial
      refine meets_read coupled named rfl (fun coupled => ⟨rfl, coupled⟩) ?_
      intro one other coupled
      exact .of_ok rfl rfl ⟨rfl, coupled⟩
  | awaitSettled asked name timeout =>
      have named : (Locator.named asked name).namespaceName = namespaceName := inside
      refine (meets_waitFor coupled named).mono (fun _ _ => id) ?_
      rintro answer _ after otherAfter ⟨same, coupled, insideAnswer⟩
      exact ⟨⟨same, insideAnswer⟩, coupled⟩

/-- The clusters still look alike, however much is still to come. -/
def StillCoupled (namespaceName : String) (more : Nat) (one other : World Capability) : Prop :=
  ∃ room roomRight, Coupled namespaceName more room roomRight one other

private theorem StillCoupled.spend (coupled : StillCoupled namespaceName more one other) :
    StillCoupled namespaceName 0 one other := by
  obtain ⟨room, roomRight, coupled⟩ := coupled
  exact ⟨room, roomRight, { coupled with few := Nat.le_trans (Nat.le_add_right _ _) coupled.few }⟩

@[simp]
theorem calls_created (world : World Capability) (capability : Capability) :
    (world.created capability).calls = world.calls := by
  have reacted : ∀ (reactions : List (Reaction Capability)) (world : World Capability),
      (reactions.foldl (fun world reaction =>
        world.schedule reaction.delay (reaction.change (key capability))) world).calls =
          world.calls := by
    intro reactions
    induction reactions with
    | nil => exact fun _ => rfl
    | cons reaction rest inductionHypothesis => exact fun world => inductionHypothesis _
  exact reacted world.reactions (world.put capability)

theorem Coupled.created {capability : Capability}
    (coupled : Coupled namespaceName more room roomRight one other)
    (inside : capability.home = namespaceName) :
    StillCoupled namespaceName more (one.created capability) (other.created capability) :=
  ⟨_, _,
    { alike := coupled.alike.created inside
      calls := by simp [coupled.calls]
      inside := by
        simpa using coupled.inside
      few := by
        simpa using coupled.few
      pending := Nat.le_refl _
      pendingRight := Nat.le_refl _ }⟩

/-- The only creation is noted, and made in both clusters or in none. -/
theorem meets_create {capability : Capability}
    (coupled : Coupled namespaceName (more + 1) room roomRight one other)
    (inside : capability.home = namespaceName) :
    Meets (StillCoupled namespaceName more)
      (fun answer otherAnswer after otherAfter =>
        answer = otherAnswer ∧ StillCoupled namespaceName more after otherAfter)
      (answerCapabilityCall (.create capability)) (answerCapabilityCall (.create capability)) one
      other := by
  have named : (Call.create capability).NamesOnly namespaceName := inside
  have collaborated : Meets (Coupled namespaceName more room roomRight)
      (fun (answer otherAnswer : Except Failure Capability) after otherAfter =>
        answer = otherAnswer ∧ StillCoupled namespaceName more after otherAfter)
      (create capability) (create capability) one other := by
    refine meets_collaborate coupled named (Nat.add_comm 1 more).le
      (fun coupled => ⟨rfl, _, _, coupled⟩) ?_
    intro one other coupled
    have samePlace : one.store.find? (key capability) = other.store.find? (key capability) :=
      coupled.alike.store.find?_eq inside
    cases place : other.store.find? (key capability) with
    | none =>
        have made := Store.create_eq_ok_iff.mpr ⟨samePlace.trans place, rfl⟩
        have otherMade := Store.create_eq_ok_iff.mpr ⟨place, rfl⟩
        exact .of_ok (by rw [run_get_bind, made]; rfl) (by rw [run_get_bind, otherMade]; rfl)
          ⟨rfl, coupled.created inside⟩
    | some taken =>
        let refusal : Failure := .server (.refused (Store.takenResponse (key capability).name))
        have refused : one.store.create capability = .error refusal := by
          rw [Store.create, samePlace, place]
        have otherRefused : other.store.create capability = .error refusal := by
          rw [Store.create, place]
        exact .of_ok (by rw [run_get_bind, refused]; rfl) (by rw [run_get_bind, otherRefused]; rfl)
          ⟨rfl, _, _, coupled⟩
  exact collaborated.mono (fun _ _ coupled => ⟨_, _, coupled⟩) fun _ _ _ _ => id

/-! ## The whole call -/

/-- Isolated programs end alike in clusters that look alike. -/
theorem meets_runCapabilityProgram {creations : Nat}
    {left right : CapabilityProgram (Except ProvisioningError ProvisionResult)}
    (isolated : Isolated namespaceName creations left right)
    (coupled : StillCoupled namespaceName creations one other) :
    Meets (StillCoupled namespaceName 0)
      (fun outcome otherOutcome after otherAfter => outcome = otherOutcome ∧
        StillCoupled namespaceName 0 after otherAfter ∧
        ∀ result, outcome = .ok result → result.LiesIn namespaceName)
      (runCapabilityProgram left) (runCapabilityProgram right) one other := by
  induction isolated generalizing one other with
  | done inside => exact .of_ok rfl rfl ⟨rfl, coupled.spend, inside⟩
  | abort message => exact .of_error rfl rfl coupled.spend
  | @reads creations request left right reading inside _ inductionHypothesis =>
      obtain ⟨room, roomRight, coupled⟩ := coupled
      have answered := (meets_answer coupled inside reading).mono
        (fun _ _ coupled => StillCoupled.spend ⟨_, _, coupled⟩) fun _ _ _ _ => id
      refine answered.bind ?_
      intro answer otherAnswer _ _ _ _ answered
      exact inductionHypothesis answer otherAnswer answered.shows ⟨_, _, answered.coupled⟩
  | @creates creations capability left right inside _ inductionHypothesis =>
      obtain ⟨room, roomRight, coupled⟩ := coupled
      have answered := (meets_create coupled inside).mono (fun _ _ => StillCoupled.spend)
        fun _ _ _ _ => id
      refine answered.bind ?_
      rintro answer _ _ _ _ _ ⟨rfl, coupled⟩
      exact inductionHypothesis answer coupled

/-- What can be seen of a call stays in a namespace: the calls that it makes name only that, it means
to create one object at most, and a result lies in it. -/
structure StaysIn (namespaceName : String)
    (outcome : Outcome Capability (Except ProvisioningError ProvisionResult)) : Prop where
  calls : ∀ call ∈ outcome.calls, call.NamesOnly namespaceName
  creations : (creations outcome.calls).length ≤ 1
  result : ∀ result, outcome.result = .ok (.ok result) → result.LiesIn namespaceName

/-- The world in which a step of limited time begins. -/
def World.begun (world : World Capability) (span : Duration) : World Capability :=
  Clocked.withClock { now := world.now, limit := world.now + span, deadline := none }
    { world with calls := [], asked := [] }

private theorem stillCoupled_begun (alike : one.LooksAlike namespaceName other) (span : Duration) :
    StillCoupled namespaceName 1 (one.begun span) (other.begun span) := by
  have sameNow : other.now = one.now := congrArg Clock.now alike.clock.symm
  refine ⟨_, _,
    { alike := { alike with clock := ?_ }
      calls := rfl
      inside := ?_
      few := Nat.le_refl _
      pending := Nat.le_refl _
      pendingRight := Nat.le_refl _ }⟩
  · simp only [World.begun, Clocked.withClock, sameNow]
  · intro call member
    cases member

theorem outcome_step {β : Type} (span : Duration) (action : Action (World Capability) β)
    (world : World Capability) :
    (step span action world).1 =
      { result := (action.run.run (world.begun span)).1
        calls := (action.run.run (world.begun span)).2.calls.reverse } := by
  have unfolded : runFor span action { world with calls := [], asked := [] } =
      action.run.run (world.begun span) := rfl
  rw [step, unfolded]
  match action.run.run (world.begun span) with
  | (.ok value, after) => rfl
  | (.error halt, after) => rfl

private theorem StillCoupled.calls_eq (coupled : StillCoupled namespaceName more one other) :
    one.calls = other.calls := by
  obtain ⟨_, _, coupled⟩ := coupled
  exact coupled.calls

/-- The calls that were made on clusters that look alike stay in the namespace. -/
theorem StillCoupled.staysIn {result : Except Halt (Except ProvisioningError ProvisionResult)}
    (coupled : StillCoupled namespaceName 0 one other)
    (inside : ∀ given, result = .ok (.ok given) → given.LiesIn namespaceName) :
    StaysIn namespaceName { result, calls := one.calls.reverse } := by
  obtain ⟨_, _, coupled⟩ := coupled
  refine ⟨fun call member => coupled.inside call (List.mem_reverse.mp member), ?_, inside⟩
  rw [creations, List.filterMap_reverse, List.length_reverse]
  exact coupled.few

/-- Calls that do the same in isolation have the same outcome in clusters that look alike. -/
theorem outcome_of_isolated {span : Duration}
    {left right : CapabilityProgram (Except ProvisioningError ProvisionResult)}
    (isolated : Isolated namespaceName 1 left right) (alike : one.LooksAlike namespaceName other) :
    (step span (runCapabilityProgram left) one).1 =
        (step span (runCapabilityProgram right) other).1 ∧
      StaysIn namespaceName (step span (runCapabilityProgram left) one).1 := by
  rw [outcome_step, outcome_step]
  rcases (meets_runCapabilityProgram isolated (stillCoupled_begun alike span)).cases with
    ⟨result, _, after, otherAfter, ends, otherEnds, rfl, coupled, inside⟩ |
      ⟨halt, after, otherAfter, ends, otherEnds, coupled⟩
  · rw [ends, otherEnds]
    refine ⟨by rw [coupled.calls_eq], coupled.staysIn ?_⟩
    rintro given ⟨⟩
    exact inside given rfl
  · rw [ends, otherEnds]
    refine ⟨by rw [coupled.calls_eq], coupled.staysIn ?_⟩
    rintro given ⟨⟩

/-- A requirement of dedicated or namespace scope is provided for in isolation.  Whatever a call is
answered that shows the same of the requester's namespace, it makes the same calls, in that namespace
only, and has the same end, whatever the operator and chance contribute.  In two rehearsed clusters
that look alike from the namespace the answers do show the same: the outcomes are equal. -/
theorem provide_isolated {requester : Requester} {requirement : Requirement}
    (confined : requirement.effectiveScope = .dedicated ∨ requirement.effectiveScope = .namespaced)
    (alike : one.LooksAlike requester.namespaceName other)
    (operatorNamespace otherOperator : String) (serial otherSerial : Serial)
    (timeout span : Duration) :
    Isolated requester.namespaceName 1
        (Provision.provide operatorNamespace serial requester requirement timeout)
        (Provision.provide otherOperator otherSerial requester requirement timeout) ∧
      (step span (runCapabilityProgram
          (Provision.provide operatorNamespace serial requester requirement timeout)) one).1 =
        (step span (runCapabilityProgram
          (Provision.provide otherOperator otherSerial requester requirement timeout)) other).1 ∧
      StaysIn requester.namespaceName (step span (runCapabilityProgram
        (Provision.provide operatorNamespace serial requester requirement timeout)) one).1 := by
  have isolated : Isolated requester.namespaceName 1
      (Provision.provide operatorNamespace serial requester requirement timeout)
      (Provision.provide otherOperator otherSerial requester requirement timeout) :=
    Provision.isolated_provide confined operatorNamespace otherOperator serial otherSerial
  exact ⟨isolated, outcome_of_isolated isolated alike⟩

/-! ### A shop beside another namespace -/

/-- A database that is shared in its namespace, and that nobody has settled yet. -/
def requestedDatabase (namespaceName : String) : Capability where
  metadata :=
    { name := some "default-dbms-in-namespace"
      namespaceName := some namespaceName
      labels := some (Placement.labels { capability := .dbms }) }
  spec := { capability := .dbms, scope := some .namespaced }

/-- The database of the shop is settled after a while. -/
def quietShop : World Capability where
  store := .ofList [requestedDatabase "retail"]
  pending := [(clockStart + .ofMilliseconds 20, .revise (key (requestedDatabase "retail"))
    fun database => { database with status := some (.serving "orders") })]

/-- The shop in a cluster with another database, which is deleted before, and with other defaults. -/
def busyShop : World Capability :=
  { quietShop with
    store := quietShop.store.put (requestedDatabase "billing")
    pending :=
      (clockStart + .ofMilliseconds 10, .remove (key (requestedDatabase "billing"))) ::
        quietShop.pending
    defaults := { values := StringMap.empty.insert "default-dbms-name" "warehouse" } }

private theorem looksAlike_busyShop : busyShop.LooksAlike "retail" quietShop where
  clock := rfl
  store := Store.LooksAlike.put_elsewhere (fun _ _ => Iff.rfl) (by decide)
  pending := .left (.remove (by decide)) (.own (.revise rfl) .nil)
  inOrder := List.pairwise_pair.mpr (by decide)
  inOrderRight := List.pairwise_singleton _ _
  streams := .nil
  faults := fun _ => .nil
  reactions := .nil

/-- The shop asks for a database. -/
def shopCall (operatorNamespace : String) (serial : Serial) :
    Action (World Capability) (Except ProvisioningError ProvisionResult) :=
  runCapabilityProgram (Provision.provide operatorNamespace serial ⟨"shop", "retail"⟩
    { capability := .dbms } (.ofMilliseconds 50))

/-- The shop is handed the same database in both clusters. -/
theorem provide_isolated_shop :
    (step (.ofMilliseconds 100) (shopCall "operators" 0) busyShop).1 =
        (step (.ofMilliseconds 100) (shopCall "platform" 7) quietShop).1 ∧
      ∃ given, (step (.ofMilliseconds 100) (shopCall "operators" 0) busyShop).1.result =
          .ok (.ok given) ∧ given.LiesIn "retail" := by
  have confined : ({ capability := .dbms } : Requirement).effectiveScope = .dedicated ∨
      ({ capability := .dbms } : Requirement).effectiveScope = .namespaced := Or.inr rfl
  have alike : busyShop.LooksAlike (⟨"shop", "retail"⟩ : Requester).namespaceName quietShop :=
    looksAlike_busyShop
  obtain ⟨_, same, stays⟩ := provide_isolated confined alike "operators" "platform" 0 7
    (.ofMilliseconds 50) (.ofMilliseconds 100)
  have isServed : ∃ given,
      (step (.ofMilliseconds 100) (shopCall "operators" 0) busyShop).1.result = .ok (.ok given) :=
    ⟨_, rfl⟩
  obtain ⟨given, served⟩ := isServed
  exact ⟨same, given, served, stays.result given served⟩

end Provisioning.Rehearsal
