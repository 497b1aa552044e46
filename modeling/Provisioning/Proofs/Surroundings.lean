import Provisioning.Proofs.Endings
import Provisioning.Proofs.QuietCluster

/-!
# Two calls in the same quiet cluster

What surrounds a call in a quiet cluster is left open as far as it can be: what controllers make of
the objects before a call is answered, and how waits end.  Two programs are alike when every course
of the one is matched by a course of the other that ends the same way after the same creations.

Main statement: programs that differ in a lookup only are alike, as long as both lookups find the same
(`Mirrors.covers`).
-/

namespace Provisioning

open ClusterObject

/-! ## Quiet clusters -/

/-- What surrounds a call: the operator's defaults, the turns that controllers take before a call is
answered, and the ends that a wait can come to. -/
structure Surroundings where
  defaults : Defaults
  turns : Store Capability → Store Capability → Prop
  ends : Store Capability → ObjectKey → Duration → Wait.End Capability → Prop
  /-- Controllers need not do anything. -/
  idle : ∀ store, turns store store
  /-- Controllers create nothing, remove nothing and change no labels. -/
  retains : ∀ before after, turns before after → Retains before after

namespace Surroundings

/-- How a call is answered. -/
def Answers (surroundings : Surroundings) (before : Store Capability) :
    (request : CapabilityCall) → request.Answer → Store Capability → Prop :=
  RepliesAfter surroundings.defaults surroundings.turns surroundings.ends before

end Surroundings

namespace Provision

/-- Programs that are over in the same way, as far as a caller can act on it: with one result, with
errors of one kind, or broken off for one reason. -/
inductive SameEnd : CapabilityProgram (Except ProvisioningError ProvisionResult) →
    CapabilityProgram (Except ProvisioningError ProvisionResult) → Prop where
  | provided (result : ProvisionResult) : SameEnd (.done (.ok result)) (.done (.ok result))
  | refused {left right : ProvisioningError} (sameKind : left.kind = right.kind) :
      SameEnd (.done (.error left)) (.done (.error right))
  | broken (message : String) : SameEnd (.abort message) (.abort message)

/-- What an answered call created. -/
def createdBy : (request : CapabilityCall) → request.Answer → Option Capability
  | .create capability, .ok _ => some capability
  | _, _ => none

/-- What was created in the course of a program. -/
def created (exchanges : List Exchange) : List Capability :=
  exchanges.filterMap fun exchange => createdBy exchange.request exchange.answer

/-- Every course of a program is matched by one of another program. -/
def Covers (surroundings : Surroundings) (store : Store Capability)
    (left right : CapabilityProgram (Except ProvisioningError ProvisionResult)) : Prop :=
  ∀ exchanges ended finish, left.Goes surroundings.Answers store exchanges ended finish →
    IsOver ended → ∃ others otherEnd otherFinish,
      right.Goes surroundings.Answers store others otherEnd otherFinish ∧
        SameEnd ended otherEnd ∧ created others = created exchanges

/-- Two programs come to the same ends and create the same. -/
def Alike (surroundings : Surroundings) (store : Store Capability)
    (left right : CapabilityProgram (Except ProvisioningError ProvisionResult)) : Prop :=
  Covers surroundings store left right ∧ Covers surroundings store right left

theorem SameEnd.refl {ended : CapabilityProgram (Except ProvisioningError ProvisionResult)}
    (isOver : IsOver ended) : SameEnd ended ended := by
  cases ended with
  | done outcome =>
      cases outcome with
      | ok result => exact .provided result
      | error error => exact .refused rfl
  | abort message => exact .broken message
  | call request next => exact isOver.elim

theorem SameEnd.isOver {ended otherEnd :
    CapabilityProgram (Except ProvisioningError ProvisionResult)}
    (same : SameEnd ended otherEnd) : IsOver otherEnd := by
  cases same with
  | provided result => trivial
  | refused sameKind => trivial
  | broken message => trivial

/-! ## Lookups in a quiet cluster -/

variable {surroundings : Surroundings} {store before after finish : Store Capability}
  {lookup : Lookup} {exchanges : List Exchange}
  {ended : CapabilityProgram (Except ProvisioningError ProvisionResult)}

@[simp]
theorem createdBy_lookup (answer : lookup.request.Answer) :
    createdBy lookup.request answer = none := by
  cases lookup with
  | byName namespaceName name => rfl
  | byLabels namespaceName? labels =>
      cases namespaceName? with
      | none => rfl
      | some namespaceName => rfl

theorem created_cons_of_none {request : CapabilityCall} {answer : request.Answer}
    (nothing : createdBy request answer = none) :
    created (⟨request, answer⟩ :: exchanges) = created exchanges :=
  List.filterMap_cons_none nothing

/-- A program that looks something up, and goes on with what is found. -/
def asks (lookup : Lookup)
    (next : Option Capability → CapabilityProgram (Except ProvisioningError ProvisionResult)) :
    CapabilityProgram (Except ProvisioningError ProvisionResult) :=
  .call lookup.request fun answer =>
    match lookup.outcome answer with
    | .ok found? => next found?
    | .error failure => .done (.error (.failed failure))

theorem goes_asks
    {next : Option Capability → CapabilityProgram (Except ProvisioningError ProvisionResult)}
    {answer : lookup.request.Answer} (turns : surroundings.turns store before)
    (replied : Replies surroundings.defaults before lookup.request answer before)
    (goes : (next (lookup.firstIn before)).Goes surroundings.Answers before exchanges ended
      finish) :
    (asks lookup next).Goes surroundings.Answers store (⟨lookup.request, answer⟩ :: exchanges)
      ended finish := by
  refine .call (Lookup.repliesAfter_iff.mpr ⟨turns, replied⟩) ?_
  rw [(Lookup.outcome_of_replies replied).1]
  exact goes

theorem goes_asks_iff
    {next : Option Capability → CapabilityProgram (Except ProvisioningError ProvisionResult)}
    (isOver : IsOver ended) :
    (asks lookup next).Goes surroundings.Answers store exchanges ended finish ↔
      ∃ answer middle rest, exchanges = ⟨lookup.request, answer⟩ :: rest ∧
        surroundings.turns store middle ∧
        Replies surroundings.defaults middle lookup.request answer middle ∧
        (next (lookup.firstIn middle)).Goes surroundings.Answers middle rest ended finish := by
  constructor
  · intro goes
    obtain ⟨answer, middle, rest, isAll, answered, goesOn⟩ := isOver.goes_call_iff.mp goes
    obtain ⟨turns, replied⟩ := Lookup.repliesAfter_iff.mp answered
    rw [(Lookup.outcome_of_replies replied).1] at goesOn
    exact ⟨answer, middle, rest, isAll, turns, replied, goesOn⟩
  · rintro ⟨answer, middle, rest, rfl, turns, replied, goes⟩
    exact goes_asks turns replied goes

/-! ## Programs that differ in a lookup -/

/-- Two programs do the same, but where the one makes one lookup the other makes another one.  Until
then all that they create is of one sort. -/
inductive Mirrors (sort : Capability → Prop) (one other : Lookup) :
    CapabilityProgram (Except ProvisioningError ProvisionResult) →
      CapabilityProgram (Except ProvisioningError ProvisionResult) → Prop where
  | same (program : CapabilityProgram (Except ProvisioningError ProvisionResult)) :
      Mirrors sort one other program program
  | looked {left right : Option Capability →
      CapabilityProgram (Except ProvisioningError ProvisionResult)}
      (rest : ∀ found?, Mirrors sort one other (left found?) (right found?)) :
      Mirrors sort one other (asks one left) (asks other right)
  | called {request : CapabilityCall} {left right : request.Answer →
      CapabilityProgram (Except ProvisioningError ProvisionResult)}
      (sorted : ∀ capability, request = .create capability → sort capability)
      (rest : ∀ answer, Mirrors sort one other (left answer) (right answer)) :
      Mirrors sort one other (.call request left) (.call request right)

section Mirrors

variable {sort : Capability → Prop} {one other : Lookup}
  {left right : CapabilityProgram (Except ProvisioningError ProvisionResult)}

theorem Mirrors.symm (mirrors : Mirrors sort one other left right) :
    Mirrors sort other one right left := by
  induction mirrors with
  | same program => exact .same program
  | looked _ inductionHypothesis => exact .looked inductionHypothesis
  | called sorted _ inductionHypothesis => exact .called sorted inductionHypothesis

/-- Between two calls nothing changes but what controllers do and what is created. -/
theorem retains_or_created {request : CapabilityCall} {answer : request.Answer}
    (answered : surroundings.Answers before request answer after) :
    Retains before after ∨ ∃ capability middle, request = .create capability ∧
      Retains before middle ∧ middle.find? (key capability) = none ∧
        after = middle.put capability := by
  cases request with
  | awaitSettled namespaceName name timeout => exact Or.inl (surroundings.retains _ _ answered.1)
  | create capability =>
      obtain ⟨middle, turns, replied⟩ := answered
      have retains := surroundings.retains _ _ turns
      cases place : middle.find? (key capability) with
      | none =>
          obtain ⟨_, isAfter⟩ := (replies_create_of_free _ place).mp replied
          exact Or.inr ⟨capability, middle, rfl, retains, place, isAfter⟩
      | some taken =>
          obtain ⟨_, rfl⟩ := (replies_create_of_taken _ place).mp replied
          exact Or.inl retains
  | get namespaceName name =>
      obtain ⟨middle, turns, _, rfl⟩ := answered
      exact Or.inl (surroundings.retains _ _ turns)
  | listIn namespaceName labels =>
      obtain ⟨middle, turns, _, rfl⟩ := answered
      exact Or.inl (surroundings.retains _ _ turns)
  | listAll labels =>
      obtain ⟨middle, turns, _, rfl⟩ := answered
      exact Or.inl (surroundings.retains _ _ turns)
  | loadDefaults =>
      obtain ⟨middle, turns, _, rfl⟩ := answered
      exact Or.inl (surroundings.retains _ _ turns)

/-- While both lookups find the same, each course of the one program is one of the other. -/
theorem Mirrors.goes {Agreed : Store Capability → Prop}
    (mirrors : Mirrors sort one other left right)
    (finds : ∀ store, Agreed store → one.firstIn store = other.firstIn store)
    (kept : ∀ store after, Agreed store → Retains store after → Agreed after)
    (put : ∀ store capability, Agreed store → store.find? (key capability) = none →
      sort capability → Agreed (store.put capability))
    (agreed : Agreed store) (isOver : IsOver ended)
    (goes : left.Goes surroundings.Answers store exchanges ended finish) :
    ∃ others, right.Goes surroundings.Answers store others ended finish ∧
      created others = created exchanges := by
  induction mirrors generalizing store exchanges with
  | same program => exact ⟨exchanges, goes, rfl⟩
  | looked rest inductionHypothesis =>
      obtain ⟨answer, middle, later, rfl, turns, replied, goesOn⟩ := (goes_asks_iff isOver).mp goes
      have agreedMiddle := kept store middle agreed (surroundings.retains _ _ turns)
      obtain ⟨others, otherGoes, sameCreated⟩ :=
        inductionHypothesis _ agreedMiddle goesOn
      obtain ⟨otherAnswer, otherReplied⟩ := other.exists_reply surroundings.defaults middle
      refine ⟨⟨other.request, otherAnswer⟩ :: others, goes_asks turns otherReplied ?_, ?_⟩
      · rw [← finds middle agreedMiddle]
        exact otherGoes
      · rw [created_cons_of_none (createdBy_lookup _), created_cons_of_none (createdBy_lookup _)]
        exact sameCreated
  | called sorted rest inductionHypothesis =>
      obtain ⟨answer, middle, later, rfl, answered, goesOn⟩ := isOver.goes_call_iff.mp goes
      have agreedMiddle : Agreed middle := by
        rcases retains_or_created answered with
          retains | ⟨capability, between, isCreation, retains, free, rfl⟩
        · exact kept store middle agreed retains
        · exact put between capability (kept store between agreed retains) free
            (sorted capability isCreation)
      obtain ⟨others, otherGoes, sameCreated⟩ :=
        inductionHypothesis answer agreedMiddle goesOn
      refine ⟨⟨_, answer⟩ :: others, .call answered otherGoes, ?_⟩
      simp only [created, List.filterMap_cons] at sameCreated ⊢
      rw [sameCreated]

theorem Mirrors.covers {Agreed : Store Capability → Prop}
    (mirrors : Mirrors sort one other left right)
    (finds : ∀ store, Agreed store → one.firstIn store = other.firstIn store)
    (kept : ∀ store after, Agreed store → Retains store after → Agreed after)
    (put : ∀ store capability, Agreed store → store.find? (key capability) = none →
      sort capability → Agreed (store.put capability))
    (agreed : Agreed store) : Covers surroundings store left right := by
  intro exchanges ended finish goes isOver
  obtain ⟨others, otherGoes, sameCreated⟩ := mirrors.goes finds kept put agreed isOver goes
  exact ⟨others, ended, finish, otherGoes, .refl isOver, sameCreated⟩

end Mirrors

/-! ## Calls that differ in their lookup -/

section Mirroring

variable (sort : Capability → Prop) (one other : Lookup) (requirement : Requirement)
  (timeout : Duration)

theorem run_awaitCreated_asks (lookup : Lookup) (target : Capability) :
    (awaitCreated lookup timeout target).run =
      .call (.awaitSettled target.home target.name timeout) fun
        | .met ready =>
            if ready.phase = .failed then .done (ProvisionResult.ofCapability ready)
            else asks lookup fun
              | some resolved => .done (ProvisionResult.ofCapability resolved)
              | none =>
                  .done (.error (.inconsistent target.home target.name
                    "provisioned capability is not found by its lookup"))
        | .failed error => .done (.error (.ofWait error))
        | .beyondClock => .abort Wait.beyondClockMessage := by
  rw [run_awaitCreated]
  congr 1
  funext answer
  match answer with
  | .failed error => rfl
  | .beyondClock => rfl
  | .met ready =>
      simp only [asks]
      congr 2
      funext found
      match lookup.outcome found with
      | .ok (some resolved) => rfl
      | .ok none => rfl
      | .error failure => rfl

theorem provide_eq_asks {operatorNamespace : String} {serial : Serial} {requester : Requester}
    {lookup : Lookup} (planned : Lookup.plan requester requirement = .ok lookup) :
    provide operatorNamespace serial requester requirement timeout = asks lookup fun
      | some existing => (useExisting requirement timeout existing).run
      | none =>
          (provideNew operatorNamespace serial requester requirement timeout lookup).run := by
  rw [provide_eq_call _ _ _ _ _ _ planned, asks]
  congr 1
  funext answer
  match lookup.outcome answer with
  | .ok (some existing) => rfl
  | .ok none => rfl
  | .error failure => rfl

section FirstFound

variable {requirement timeout} {operatorNamespace : String} {serial : Serial} {requester : Requester}
  {found : Capability} {error : ProvisioningError}

/-- What comes first in the lookup is refused if it is not valid, and nothing is created. -/
theorem ended_of_invalid_first (planned : Lookup.plan requester requirement = .ok lookup)
    (isFirst : lookup.firstIn store = some found)
    (invalid : found.validate requirement = .error error) (isOver : IsOver ended)
    (goes : (provide operatorNamespace serial requester requirement timeout).Goes
      surroundings.Answers store exchanges ended finish) :
    ended = .done (.error error) ∧ created exchanges = [] := by
  rw [provide_eq_asks _ _ planned] at goes
  obtain ⟨answer, middle, rest, rfl, turns, replied, looked⟩ := (goes_asks_iff isOver).mp goes
  obtain ⟨present, isPresent, same⟩ := (surroundings.retains _ _ turns).firstIn isFirst
  have stillInvalid := same.validate_eq.trans invalid
  simp only [isPresent, run_useExisting, stillInvalid] at looked
  obtain ⟨rfl, rfl, _⟩ := Program.goes_done_iff.mp looked
  refine ⟨rfl, ?_⟩
  rw [created_cons_of_none (createdBy_lookup answer)]
  rfl

theorem goes_of_invalid_first (operatorNamespace : String) (serial : Serial) (timeout : Duration)
    (surroundings : Surroundings)
    (planned : Lookup.plan requester requirement = .ok lookup)
    (isFirst : lookup.firstIn store = some found)
    (invalid : found.validate requirement = .error error) :
    ∃ exchanges, (provide operatorNamespace serial requester requirement timeout).Goes
      surroundings.Answers store exchanges (.done (.error error)) store := by
  obtain ⟨answer, replied⟩ := lookup.exists_reply surroundings.defaults store
  have looked : (useExisting requirement timeout found).run.Goes surroundings.Answers store []
      (.done (.error error)) store := by
    simp only [run_useExisting, invalid]
    exact .still _ _
  rw [provide_eq_asks _ _ planned]
  refine ⟨[⟨_, answer⟩], goes_asks (surroundings.idle store) replied ?_⟩
  rw [isFirst]
  exact looked

/-- What comes first in the lookup is waited for and handed out if it is valid. -/
theorem plain_of_valid_first (planned : Lookup.plan requester requirement = .ok lookup)
    (isFirst : lookup.firstIn store = some found) (valid : found.validate requirement = .ok ())
    (isOver : IsOver ended)
    (goes : (provide operatorNamespace serial requester requirement timeout).Goes
      surroundings.Answers store exchanges ended finish) : EndsPlainly ended := by
  rw [provide_eq_asks _ _ planned] at goes
  obtain ⟨answer, middle, rest, rfl, turns, replied, looked⟩ := (goes_asks_iff isOver).mp goes
  obtain ⟨present, isPresent, same⟩ := (surroundings.retains _ _ turns).firstIn isFirst
  simp only [isPresent] at looked
  exact ((useWay_iff isOver).mpr looked).plain (same.validate_eq.trans valid)

end FirstFound

private theorem mirrors_awaitCreated (target : Capability) :
    Mirrors sort one other (awaitCreated one timeout target).run
      (awaitCreated other timeout target).run := by
  rw [run_awaitCreated_asks, run_awaitCreated_asks]
  apply Mirrors.called
  · intro capability isCreation
    cases isCreation
  · intro answer
    cases answer with
    | failed error => exact .same _
    | beyondClock => exact .same _
    | met ready =>
        by_cases failed : ready.phase = .failed
        · simp only [if_pos failed]
          exact .same _
        · simp only [if_neg failed]
          exact .looked fun found? => .same _

theorem mirrors_createOrAdopt {built : Capability} (sorted : sort built) :
    Mirrors sort one other
      (createOrAdopt requirement built >>= awaitCreated one timeout).run
      (createOrAdopt requirement built >>= awaitCreated other timeout).run := by
  rw [run_createOrAdopt_bind, run_createOrAdopt_bind]
  apply Mirrors.called
  · rintro _ ⟨⟩
    exact sorted
  · intro answer
    cases answer with
    | ok written => exact mirrors_awaitCreated sort one other timeout built
    | error failure =>
        by_cases taken : failure.saysTaken = true
        · simp only [if_pos taken, run_adopt_bind]
          apply Mirrors.called
          · intro capability isCreation
            cases isCreation
          · intro read
            match read with
            | .error failure => exact .same _
            | .ok none => exact .same _
            | .ok (some existing) =>
                cases valid : existing.validate requirement with
                | error error =>
                    simp only [valid]
                    exact .same _
                | ok _ =>
                    simp only [valid]
                    exact mirrors_awaitCreated sort one other timeout existing
        · simp only [if_neg taken]
          exact .same _

end Mirroring

end Provision

end Provisioning
