import Provisioning.Cluster.Store
import Provisioning.Proofs.Exchanges
import Provisioning.Proofs.Serving

/-!
# The order of a call's requests

Whatever is answered, a call of provisioning makes its requests in one order (`CallOrder`): the
lookup; after a hit at most one wait, and only for a valid capability that is not settled; after a
miss the defaults, one creation, the read of what has the place already where the creation was
refused for that, one wait for what is at the place, and the same lookup again.

Main statement: `provide_callOrder`.
-/

namespace Provisioning

open ClusterObject

namespace Provision

/-! ## The order -/

section Order

variable (operatorNamespace : String) (serial : Serial) (requester : Requester)
  (requirement : Requirement) (timeout : Duration) (lookup : Lookup)

/-- What follows once there is a capability at the place of a new one. -/
inductive AwaitOrder (place : ObjectKey) : List Exchange → Prop where
  | nothing : AwaitOrder place []
  | waited (ended : Wait.End Capability) :
      AwaitOrder place [⟨.awaitSettled place.namespaceName place.name timeout, ended⟩]
  | lookedAgain {ready : Capability} (notFailed : ready.phase ≠ .failed)
      (answer : lookup.request.Answer) :
      AwaitOrder place
        [⟨.awaitSettled place.namespaceName place.name timeout, .met ready⟩,
          ⟨lookup.request, answer⟩]

/-- A creation and what follows it. -/
inductive CreationOrder (built : Capability) : List Exchange → Prop where
  | refused (failure : Failure) : CreationOrder built [⟨.create built, .error failure⟩]
  | created (written : Capability) {exchanges : List Exchange}
      (awaits : AwaitOrder timeout lookup (key built) exchanges) :
      CreationOrder built (⟨.create built, .ok written⟩ :: exchanges)
  | unusable {response : ErrorResponse} (taken : response.code = 409)
      (answer : Except Failure (Option Capability)) :
      CreationOrder built
        [⟨.create built, .error (.server (.refused response))⟩,
          ⟨.get built.home built.name, answer⟩]
  | adopted {response : ErrorResponse} {existing : Capability} {exchanges : List Exchange}
      (taken : response.code = 409) (valid : existing.validate requirement = .ok ())
      (awaits : AwaitOrder timeout lookup (key built) exchanges) :
      CreationOrder built
        (⟨.create built, .error (.server (.refused response))⟩ ::
          ⟨.get built.home built.name, .ok (some existing)⟩ :: exchanges)

/-- The requests of a call with their answers, as far as it has come. -/
inductive CallOrder : List Exchange → Prop where
  | nothing : CallOrder []
  | looked (answer : lookup.request.Answer) : CallOrder [⟨lookup.request, answer⟩]
  | waited {answer : lookup.request.Answer} {found : Capability}
      (hit : lookup.outcome answer = .ok (some found))
      (valid : found.validate requirement = .ok ()) (pending : found.phase.isTerminal = false)
      (ended : Wait.End Capability) :
      CallOrder
        [⟨lookup.request, answer⟩, ⟨.awaitSettled found.home found.name timeout, ended⟩]
  | loaded {answer : lookup.request.Answer} (miss : lookup.outcome answer = .ok none)
      (read : Except Failure Defaults) :
      CallOrder [⟨lookup.request, answer⟩, ⟨.loadDefaults, read⟩]
  | created {answer : lookup.request.Answer} {defaults : Defaults} {built : Capability}
      {exchanges : List Exchange} (miss : lookup.outcome answer = .ok none)
      (placed : Placement.build requester requirement defaults operatorNamespace serial =
        .ok built)
      (creates : CreationOrder requirement timeout lookup built exchanges) :
      CallOrder (⟨lookup.request, answer⟩ :: ⟨.loadDefaults, .ok defaults⟩ :: exchanges)

end Order

/-! ## Creations in it -/

section Counting

variable {operatorNamespace : String} {serial : Serial} {requester : Requester}
  {requirement : Requirement} {timeout : Duration} {lookup : Lookup}
  {exchanges : List Exchange}

/-- Whether an exchange is about a creation. -/
def asksToCreate (exchange : Exchange) : Bool :=
  exchange.request.isCreation

@[simp]
theorem asksToCreate_lookup (lookup : Lookup) (answer : lookup.request.Answer) :
    asksToCreate ⟨lookup.request, answer⟩ = false := by
  cases lookup with
  | byName namespaceName name => rfl
  | byLabels namespaceName? labels =>
      cases namespaceName? with
      | none => rfl
      | some namespaceName => rfl

theorem AwaitOrder.creations {place : ObjectKey}
    (order : AwaitOrder timeout lookup place exchanges) : exchanges.countP asksToCreate = 0 := by
  cases order with
  | nothing => rfl
  | waited ended => rfl
  | @lookedAgain ready notFailed answer =>
      have first : asksToCreate ⟨.awaitSettled place.namespaceName place.name timeout,
          .met ready⟩ = false := rfl
      have second := asksToCreate_lookup lookup answer
      rw [List.countP_cons_of_neg (Bool.not_eq_true _ ▸ first),
        List.countP_cons_of_neg (Bool.not_eq_true _ ▸ second), List.countP_nil]

theorem CreationOrder.creations {built : Capability}
    (order : CreationOrder requirement timeout lookup built exchanges) :
    exchanges.countP asksToCreate = 1 := by
  cases order with
  | refused failure => rfl
  | created written awaits => rw [List.countP_cons_of_pos rfl, awaits.creations]
  | unusable taken answer => rfl
  | adopted taken valid awaits =>
      rw [List.countP_cons_of_pos rfl, List.countP_cons_of_neg Bool.false_ne_true, awaits.creations]

theorem CallOrder.creations
    (order : CallOrder operatorNamespace serial requester requirement timeout lookup exchanges) :
    exchanges.countP asksToCreate ≤ 1 := by
  have looking : ∀ (answer : lookup.request.Answer) (rest : List Exchange),
      (⟨lookup.request, answer⟩ :: rest : List Exchange).countP asksToCreate =
        rest.countP asksToCreate := by
    intro answer rest
    rw [List.countP_cons_of_neg]
    rw [asksToCreate_lookup]
    decide
  cases order with
  | nothing => exact Nat.zero_le 1
  | looked answer =>
      rw [looking]
      exact Nat.zero_le 1
  | waited hit valid pending ended =>
      rw [looking]
      exact Nat.zero_le 1
  | loaded miss read =>
      rw [looking]
      exact Nat.zero_le 1
  | created miss placed creates =>
      rw [looking, List.countP_cons_of_neg Bool.false_ne_true]
      exact Nat.le_of_eq creates.creations

end Counting

/-! ## Answers of any kind -/

/-- Nobody else acts, and any answer may come.  What is read under a key has that key; a creation
takes effect or does not, whatever is said of it. -/
def AnsweredAnyhow (before : Store Capability) :
    (request : CapabilityCall) → request.Answer → Store Capability → Prop
  | .get namespaceName name, answer, after =>
      (∀ found, answer = .ok (some found) → key found = ⟨namespaceName, name⟩) ∧ after = before
  | .create capability, _, after => after = before ∨ before.create capability = .ok after
  | .listIn .., _, after => after = before
  | .listAll _, _, after => after = before
  | .loadDefaults, _, after => after = before
  | .awaitSettled .., _, after => after = before

section Effects

variable {α : Type} {program : CapabilityProgram α} {left : CapabilityProgram α}
  {start finish : Store Capability} {exchanges : List Exchange}

theorem AnsweredAnyhow.unchanged {before after : Store Capability} {request : CapabilityCall}
    {answer : request.Answer} (answered : AnsweredAnyhow before request answer after)
    (reads : request.isCreation = false) : after = before := by
  cases request with
  | get namespaceName name => exact answered.2
  | listIn namespaceName labels => exact answered
  | listAll labels => exact answered
  | create capability => cases reads
  | loadDefaults => exact answered
  | awaitSettled namespaceName name timeout => exact answered

/-- A program that has created nothing has changed nothing. -/
theorem unchanged_of_goes (goes : program.Goes AnsweredAnyhow start exchanges left finish)
    (none : exchanges.countP asksToCreate = 0) : finish = start := by
  induction goes with
  | still program state => rfl
  | @call request next answer start middle finish exchanges left answered rest
      inductionHypothesis =>
      rw [List.countP_cons] at none
      have later : exchanges.countP asksToCreate = 0 := by omega
      have reads : request.isCreation = false := by
        cases creation : request.isCreation with
        | false => rfl
        | true => simp [asksToCreate, creation] at none
      rw [inductionHypothesis later, answered.unchanged reads]

/-- A program that has asked for one creation has made that change or none. -/
theorem change_of_goes (goes : program.Goes AnsweredAnyhow start exchanges left finish)
    (once : exchanges.countP asksToCreate ≤ 1) :
    finish = start ∨ ∃ capability answer,
      ⟨.create capability, answer⟩ ∈ exchanges ∧ start.create capability = .ok finish := by
  induction goes with
  | still program state => exact Or.inl rfl
  | @call request next answer start middle finish exchanges left answered rest
      inductionHypothesis =>
      rw [List.countP_cons] at once
      cases creation : request.isCreation with
      | false =>
          have same := answered.unchanged creation
          subst same
          rcases inductionHypothesis (by omega) with unchanged | ⟨capability, said, member, made⟩
          · exact Or.inl unchanged
          · exact Or.inr ⟨capability, said, List.mem_cons_of_mem _ member, made⟩
      | true =>
          have later : exchanges.countP asksToCreate = 0 := by
            simp [asksToCreate, creation] at once
            simpa [asksToCreate] using once
          have same := unchanged_of_goes rest later
          subst same
          cases request with
          | create capability =>
              rcases answered with unchanged | made
              · exact Or.inl unchanged
              · exact Or.inr ⟨capability, answer, List.mem_cons_self, made⟩
          | get namespaceName name => cases creation
          | listIn namespaceName labels => cases creation
          | listAll labels => cases creation
          | loadDefaults => cases creation
          | awaitSettled namespaceName name timeout => cases creation

end Effects

/-! ## The parts of a call -/

section Parts

variable {operatorNamespace : String} {serial : Serial} {requester : Requester}
  {requirement : Requirement} {timeout : Duration} {lookup : Lookup}
  {left : CapabilityProgram (Except ProvisioningError ProvisionResult)}
  {start finish : Store Capability} {exchanges : List Exchange}

private theorem order_of_awaitCreated {place : ObjectKey} {target : Capability}
    (atPlace : key target = place)
    (goes : (awaitCreated lookup timeout target).run.Goes AnsweredAnyhow start exchanges left
      finish) :
    AwaitOrder timeout lookup place exchanges := by
  subst atPlace
  rw [run_awaitCreated] at goes
  rcases Program.goes_call_iff.mp goes with ⟨rfl, _, _⟩ | ⟨ended, _, rest, rfl, _, waited⟩
  · exact .nothing
  cases ended with
  | failed error =>
      obtain ⟨rfl, _, _⟩ := Program.goes_done_iff.mp waited
      exact .waited _
  | beyondClock =>
      obtain ⟨rfl, _, _⟩ := Program.goes_abort_iff.mp waited
      exact .waited _
  | met ready =>
      by_cases failed : ready.phase = .failed
      · simp only [if_pos failed] at waited
        obtain ⟨rfl, _, _⟩ := Program.goes_done_iff.mp waited
        exact .waited _
      · simp only [if_neg failed] at waited
        rcases Program.goes_call_iff.mp waited with
          ⟨rfl, _, _⟩ | ⟨answer, _, rest, rfl, _, looked⟩
        · exact .waited _
        have noMore : rest = [] := by
          match outcome : lookup.outcome answer, looked with
          | .error failure, looked => exact (Program.goes_done_iff.mp looked).1
          | .ok none, looked => exact (Program.goes_done_iff.mp looked).1
          | .ok (some resolved), looked => exact (Program.goes_done_iff.mp looked).1
        rw [noMore]
        exact .lookedAgain failed answer

private theorem order_of_adopt {built : Capability} {response : ErrorResponse}
    (taken : response.code = 409)
    (goes : (adopt requirement built >>= awaitCreated lookup timeout).run.Goes AnsweredAnyhow start
      exchanges left finish) :
    CreationOrder requirement timeout lookup built
      (⟨.create built, .error (.server (.refused response))⟩ :: exchanges) := by
  rw [run_adopt_bind] at goes
  rcases Program.goes_call_iff.mp goes with ⟨rfl, _, _⟩ | ⟨read, _, rest, rfl, given, adopted⟩
  · exact .refused _
  match read, given, adopted with
  | .error failure, _, ended =>
      obtain ⟨rfl, _, _⟩ := Program.goes_done_iff.mp ended
      exact .unusable taken _
  | .ok none, _, ended =>
      obtain ⟨rfl, _, _⟩ := Program.goes_done_iff.mp ended
      exact .unusable taken _
  | .ok (some existing), given, adopted =>
      have sameKey : key existing = key built := given.1 existing rfl
      cases valid : existing.validate requirement with
      | error error =>
          simp only [valid] at adopted
          obtain ⟨rfl, _, _⟩ := Program.goes_done_iff.mp adopted
          exact .unusable taken _
      | ok _ =>
          simp only [valid] at adopted
          exact .adopted taken valid (order_of_awaitCreated sameKey adopted)

private theorem order_of_createOrAdopt {built : Capability}
    (goes : (createOrAdopt requirement built >>= awaitCreated lookup timeout).run.Goes
      AnsweredAnyhow start exchanges left finish) :
    exchanges = [] ∨ CreationOrder requirement timeout lookup built exchanges := by
  rw [run_createOrAdopt_bind] at goes
  rcases Program.goes_call_iff.mp goes with ⟨rfl, _, _⟩ | ⟨answer, _, rest, rfl, _, asked⟩
  · exact Or.inl rfl
  refine Or.inr ?_
  cases answer with
  | ok written => exact .created written (order_of_awaitCreated rfl asked)
  | error failure =>
      by_cases taken : failure.saysTaken = true
      · simp only [if_pos taken] at asked
        obtain ⟨response, isRefusal, code⟩ := Failure.saysTaken_iff.mp taken
        rw [isRefusal]
        exact order_of_adopt code asked
      · simp only [if_neg taken] at asked
        obtain ⟨rfl, _, _⟩ := Program.goes_done_iff.mp asked
        exact .refused failure

/-- What a call asks for once its lookup has found something. -/
theorem order_of_useExisting {found : Capability}
    (goes : (useExisting requirement timeout found).run.Goes AnsweredAnyhow start exchanges left
      finish) :
    exchanges = [] ∨
      found.validate requirement = .ok () ∧ found.phase.isTerminal = false ∧
        ∃ ended, exchanges = [⟨.awaitSettled found.home found.name timeout, ended⟩] := by
  rw [run_useExisting] at goes
  cases valid : found.validate requirement with
  | error error =>
      simp only [valid] at goes
      exact Or.inl (Program.goes_done_iff.mp goes).1
  | ok _ =>
      simp only [valid] at goes
      cases terminal : found.phase.isTerminal with
      | true =>
          simp only [terminal, if_true] at goes
          exact Or.inl (Program.goes_done_iff.mp goes).1
      | false =>
          simp only [terminal, Bool.false_eq_true, if_false] at goes
          rcases Program.goes_call_iff.mp goes with ⟨rfl, _, _⟩ | ⟨ended, _, rest, rfl, _, waited⟩
          · exact Or.inl rfl
          have noMore : rest = [] := by
            cases ended with
            | met ready => exact (Program.goes_done_iff.mp waited).1
            | failed error => exact (Program.goes_done_iff.mp waited).1
            | beyondClock => exact (Program.goes_abort_iff.mp waited).1
          rw [noMore]
          exact Or.inr ⟨rfl, rfl, ended, rfl⟩

/-- What a call asks for once its lookup has found nothing. -/
theorem order_of_provideNew {answer : lookup.request.Answer}
    (miss : lookup.outcome answer = .ok none)
    (goes : (provideNew operatorNamespace serial requester requirement timeout lookup).run.Goes
      AnsweredAnyhow start exchanges left finish) :
    CallOrder operatorNamespace serial requester requirement timeout lookup
      (⟨lookup.request, answer⟩ :: exchanges) := by
  rw [run_provideNew] at goes
  rcases Program.goes_call_iff.mp goes with ⟨rfl, _, _⟩ | ⟨read, _, rest, rfl, _, loaded⟩
  · exact .looked answer
  cases read with
  | error failure =>
      obtain ⟨rfl, _, _⟩ := Program.goes_done_iff.mp loaded
      exact .loaded miss _
  | ok defaults =>
      cases placed : Placement.build requester requirement defaults operatorNamespace serial with
      | error error =>
          simp only [placed] at loaded
          obtain ⟨rfl, _, _⟩ := Program.goes_done_iff.mp loaded
          exact .loaded miss _
      | ok built =>
          simp only [placed] at loaded
          rcases order_of_createOrAdopt loaded with rfl | creates
          · exact .loaded miss _
          · exact .created miss placed creates

theorem order_of_provide (planned : Lookup.plan requester requirement = .ok lookup)
    (goes : (provide operatorNamespace serial requester requirement timeout).Goes AnsweredAnyhow
      start exchanges left finish) :
    CallOrder operatorNamespace serial requester requirement timeout lookup exchanges := by
  rw [provide_eq_call _ _ _ _ _ _ planned] at goes
  rcases Program.goes_call_iff.mp goes with ⟨rfl, _, _⟩ | ⟨answer, _, rest, rfl, _, looked⟩
  · exact .nothing
  match outcome : lookup.outcome answer, looked with
  | .error failure, looked =>
      obtain ⟨rfl, _, _⟩ := Program.goes_done_iff.mp looked
      exact .looked answer
  | .ok none, looked => exact order_of_provideNew outcome looked
  | .ok (some found), looked =>
      rcases order_of_useExisting looked with rfl | ⟨valid, pending, ended, rfl⟩
      · exact .looked answer
      · exact .waited outcome valid pending ended

/-- After a miss the defaults are next. -/
theorem loads_of_miss (planned : Lookup.plan requester requirement = .ok lookup)
    {answer : lookup.request.Answer} (miss : lookup.outcome answer = .ok none)
    (goes : (provide operatorNamespace serial requester requirement timeout).Goes AnsweredAnyhow
      start [⟨lookup.request, answer⟩] left finish) :
    ∃ next, left = .call .loadDefaults next := by
  rw [provide_eq_call _ _ _ _ _ _ planned] at goes
  cases goes with
  | call _ looked =>
      simp only [miss, run_provideNew] at looked
      rcases Program.goes_call_iff.mp looked with ⟨_, isLeft, _⟩ | ⟨_, _, _, more, _, _⟩
      · exact ⟨_, isLeft⟩
      · cases more

end Parts

/-! ## The whole call -/

/-- Without a lookup nothing is asked for.  Otherwise the lookup is first, and whatever is answered,
the requests keep their order; after a miss the defaults are next.  At most one creation is asked
for, and it is the only change that there can be. -/
theorem provide_callOrder (operatorNamespace : String) (serial : Serial) (requester : Requester)
    (requirement : Requirement) (timeout : Duration) :
    (∀ error, Lookup.plan requester requirement = .error error →
      provide operatorNamespace serial requester requirement timeout = .done (.error error)) ∧
    ∀ lookup, Lookup.plan requester requirement = .ok lookup →
      (∃ next, provide operatorNamespace serial requester requirement timeout =
        .call lookup.request next) ∧
      ∀ start exchanges left finish,
        (provide operatorNamespace serial requester requirement timeout).Goes AnsweredAnyhow start
            exchanges left finish →
          CallOrder operatorNamespace serial requester requirement timeout lookup exchanges ∧
          (∀ answer, exchanges = [⟨lookup.request, answer⟩] → lookup.outcome answer = .ok none →
            ∃ next, left = .call .loadDefaults next) ∧
          exchanges.countP asksToCreate ≤ 1 ∧
          (finish = start ∨ ∃ built answer, ⟨.create built, answer⟩ ∈ exchanges ∧
            start.create built = .ok finish) := by
  constructor
  · intro error unplanned
    rw [provide, unplanned]
    rfl
  · intro lookup planned
    constructor
    · rw [provide_eq_call _ _ _ _ _ _ planned]
      exact ⟨_, rfl⟩
    · intro start exchanges left finish goes
      have order := order_of_provide planned goes
      refine ⟨order, ?_, order.creations, change_of_goes goes order.creations⟩
      intro answer only miss
      subst only
      exact loads_of_miss planned miss goes

/-- The longest way: what was to be created is there already, is taken over and awaited, and is then
found. -/
theorem provide_callOrder_taken :
    ∃ exchanges left,
      (provide "operators" 0 ⟨"shop", "team"⟩ { capability := .dbms, scope := some .dedicated }
        ⟨0⟩).Goes AnsweredAnyhow .empty exchanges left .empty ∧
      exchanges.length = 6 ∧
      CallOrder "operators" 0 ⟨"shop", "team"⟩ { capability := .dbms, scope := some .dedicated } ⟨0⟩
        (.byName "team" "shop-db") exchanges := by
  let built : Capability :=
    { metadata :=
        { name := some "shop-db"
          namespaceName := some "team"
          labels := some (Placement.labels { capability := .dbms, scope := some .dedicated }) }
      spec := { capability := .dbms, scope := some .dedicated } }
  let ready : Capability := { built with status := some (.serving "shop-db") }
  have found : ∀ capability : Capability, key capability = ⟨"team", "shop-db"⟩ →
      AnsweredAnyhow .empty (.get "team" "shop-db") (.ok (some capability)) .empty := by
    intro capability atPlace
    refine ⟨?_, rfl⟩
    intro read isRead
    cases isRead
    exact atPlace
  have absent : AnsweredAnyhow .empty (.get "team" "shop-db") (.ok none) .empty := by
    refine ⟨?_, rfl⟩
    intro read isRead
    cases isRead
  have goes : (provide "operators" 0 ⟨"shop", "team"⟩
      { capability := .dbms, scope := some .dedicated } ⟨0⟩).Goes AnsweredAnyhow .empty
      [⟨.get "team" "shop-db", .ok none⟩, ⟨.loadDefaults, .ok {}⟩,
        ⟨.create built, .error (.server (.refused (Store.takenResponse "shop-db")))⟩,
        ⟨.get "team" "shop-db", .ok (some built)⟩,
        ⟨.awaitSettled "team" "shop-db" ⟨0⟩, .met ready⟩,
        ⟨.get "team" "shop-db", .ok (some ready)⟩]
      (.done (ProvisionResult.ofCapability ready)) .empty := by
    refine .call absent (.call rfl (.call (Or.inl rfl) ?_))
    exact .call (found built rfl) (.call rfl (.call (found ready rfl) (.still _ _)))
  exact ⟨_, _, goes, rfl, (((provide_callOrder _ _ _ _ _).2 _ rfl).2 _ _ _ _ goes).1⟩

end Provision

end Provisioning
