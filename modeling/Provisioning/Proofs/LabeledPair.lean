import Provisioning.Proofs.Kinds
import Provisioning.Proofs.LabeledCallers

/-!
# Two callers with a selector

Two callers who create a capability each, and whose capabilities are both settled.  The one whose
capability comes first always gets a result.  The other does not: if it looks again while only its
own capability is settled, it finds the first one unsettled, and ends with an error
(`provide_labeledPair`).
-/

namespace Provisioning

open ClusterObject

/-! ## Runs put together -/

namespace Crowd

variable {Caller Call : Type} {Answer : Call → Type} {α σ : Type}

/-- The events of one caller's calls, the last call first. -/
def eventsOf (caller : Caller) (exchanges : List (Program.Exchange Call Answer)) :
    List (Event Caller Call Answer) :=
  (exchanges.map fun exchange => .answered caller exchange.request exchange.answer).reverse

private theorem mem_eventsOf {caller : Caller} {request : Call} {answer : Answer request}
    {exchanges : List (Program.Exchange Call Answer)} (member : ⟨request, answer⟩ ∈ exchanges) :
    .answered caller request answer ∈ eventsOf caller exchanges :=
  List.mem_reverse.mpr (List.mem_map.mpr ⟨⟨request, answer⟩, member, rfl⟩)

variable [DecidableEq Caller] {environment : Environment Call Answer σ}
  {start crowd : Crowd Caller Call Answer α σ} {trace : List (Event Caller Call Answer)}

/-- One of the callers goes on while the others wait. -/
theorem Run.goes {caller : Caller} {program left : Program Call Answer α} {before after : σ}
    {exchanges : List (Program.Exchange Call Answer)} (run : Run environment start trace crowd)
    (isProgram : crowd.programs caller = program) (isShared : crowd.shared = before)
    (goes : program.Goes environment.replies before exchanges left after) :
    ∃ reached, Run environment start (eventsOf caller exchanges ++ trace) reached ∧
      reached.shared = after ∧ reached.programs caller = left ∧
      ∀ other, other ≠ caller → reached.programs other = crowd.programs other := by
  induction goes generalizing trace crowd with
  | still program state => exact ⟨crowd, run, isShared, isProgram, fun _ _ => rfl⟩
  | @call request next answer _ middle _ exchanges left given _ inductionHypothesis =>
      subst isShared
      have step := run.step (.answered isProgram given)
      obtain ⟨reached, further, isAfter, isLeft, others⟩ :=
        inductionHypothesis step (Function.update_self _ _ _) rfl
      refine ⟨reached, ?_, isAfter, isLeft, ?_⟩
      · simpa [eventsOf] using further
      · intro other different
        exact (others other different).trans (Function.update_of_ne different _ _)

end Crowd

/-! ## The parts of a call in a shared cluster -/

namespace Provision

section Parts

variable (operatorNamespace : String) (serial : Serial) (timeout : Duration) (defaults : Defaults)
  {requester : Requester} {requirement : Requirement} {lookup : Lookup} {store : Store Capability}
  {built ready found : Capability}

theorem goes_of_miss (planned : Lookup.plan requester requirement = .ok lookup)
    (missed : lookup.firstIn store = none) :
    ∃ answer, (provide operatorNamespace serial requester requirement timeout).Goes
      (Replies defaults) store [⟨lookup.request, answer⟩]
      (provideNew operatorNamespace serial requester requirement timeout lookup).run store := by
  obtain ⟨answer, replied⟩ := lookup.exists_reply defaults store
  have outcome := (Lookup.outcome_of_replies replied).1
  refine ⟨answer, ?_⟩
  rw [provide_eq_call _ _ _ _ _ _ planned]
  refine .call replied ?_
  simp only [outcome, missed]
  exact .still _ _

theorem goes_of_creation (lookup : Lookup)
    (placed : Placement.build requester requirement defaults operatorNamespace serial = .ok built)
    (free : store.find? (key built) = none) :
    (provideNew operatorNamespace serial requester requirement timeout lookup).run.Goes
      (Replies defaults) store [⟨.loadDefaults, .ok defaults⟩, ⟨.create built, .ok built⟩]
      (awaitCreated lookup timeout built).run (store.put built) := by
  have loaded : Replies defaults store .loadDefaults (.ok defaults) store := ⟨rfl, rfl⟩
  have created : Replies defaults store (.create built) (.ok built) (store.put built) :=
    (replies_create_of_free defaults free).mpr ⟨rfl, rfl⟩
  rw [run_provideNew]
  refine .call loaded ?_
  simp only [placed, run_createOrAdopt_bind]
  exact .call created (.still _ _)

theorem goes_of_settled (target : Capability) (member : ready ∈ store.objects)
    (sameKey : key ready = key target) (successful : ready.phase = .successful)
    (isFirst : lookup.firstIn store = some found) :
    ∃ answer, (awaitCreated lookup timeout target).run.Goes (Replies defaults) store
      [⟨.awaitSettled target.home target.name timeout, .met ready⟩, ⟨lookup.request, answer⟩]
      (.done (ProvisionResult.ofCapability found)) store := by
  obtain ⟨answer, replied⟩ := lookup.exists_reply defaults store
  have outcome := (Lookup.outcome_of_replies replied).1
  have terminal := Capability.isTerminal_of_successful successful
  have waited : Replies defaults store (.awaitSettled target.home target.name timeout)
      (.met ready) store := ⟨⟨ready, member, sameKey, terminal, rfl⟩, rfl⟩
  refine ⟨answer, ?_⟩
  rw [run_awaitCreated]
  refine .call waited ?_
  simp only [if_neg (Capability.ne_failed_of_successful successful)]
  refine .call replied ?_
  simp only [outcome, isFirst]
  exact .still _ _

end Parts

/-! ## A call that does not end well -/

variable {ι : Type} {requirement : Requirement} {callers : ι → Caller}
  {initial store : Store Capability} {operatorNamespace : String} {defaults : Defaults}

/-- A caller has created its capability. -/
def HasCreated (requirement : Requirement) (callers : ι → Caller)
    (trace : List (Crowd.Event ι CapabilityCall CapabilityCall.Answer)) (index : ι) : Prop :=
  ∃ written, .answered index (.create (own requirement callers index)) (.ok written) ∈ trace

theorem HasCreated.mono {trace later : List (Crowd.Event ι CapabilityCall CapabilityCall.Answer)}
    {index : ι} (created : HasCreated requirement callers trace index) (kept : trace ⊆ later) :
    HasCreated requirement callers later index := by
  obtain ⟨written, member⟩ := created
  exact ⟨written, kept member⟩

/-- The capability of a caller, as it is settled. -/
def ownReady (requirement : Requirement) (callers : ι → Caller) (index : ι) : Capability :=
  { own requirement callers index with status := some (.serving "service") }

private theorem settles_own (selecting : Selecting requirement callers initial) {index : ι}
    (member : own requirement callers index ∈ store.objects) :
    Settles initial store (store.put (ownReady requirement callers index)) :=
  ⟨own requirement callers index, member, .serving "service", selecting.free index, rfl,
    CapabilityStatus.serves_serving (by decide), rfl⟩

/-- A capability of a caller that all the others come after is what the selector finds. -/
theorem Selecting.firstIn_of_before (selecting : Selecting requirement callers initial)
    {object : Capability} {index : ι} (member : object ∈ store.objects)
    (isVersion : object.IsVersionOf (own requirement callers index))
    (before : ∀ other ∈ store.objects,
      other ∈ initial.objects ∨ other = object ∨ key object < key other) :
    (Lookup.byLabels none requirement.selector).firstIn store = some object := by
  apply Lookup.firstIn_eq_some_of_least member (selecting.matched isVersion)
  intro other otherMember matched
  rcases before other otherMember with inInitial | least
  · have carried : other.labels.carries requirement.selector = true := matched
    rw [selecting.unmatched other inInitial] at carried
    cases carried
  · exact least

section Rivalry

variable {lower upper : ι}

/-- Both capabilities are there, and only the upper one is settled. -/
private def rivalStore (requirement : Requirement) (callers : ι → Caller) (initial : Store Capability)
    (lower upper : ι) : Store Capability :=
  ((initial.put (own requirement callers lower)).put (own requirement callers upper)).put
    (ownReady requirement callers upper)

private theorem own_mem_rivalStore
    (distinct : key (own requirement callers lower) ≠ key (own requirement callers upper)) :
    own requirement callers lower ∈
      (rivalStore requirement callers initial lower upper).objects := by
  have first : own requirement callers lower ∈
      (initial.put (own requirement callers lower)).objects := Store.mem_put_self
  have second : own requirement callers lower ∈
      ((initial.put (own requirement callers lower)).put (own requirement callers upper)).objects :=
    Store.mem_put_iff.mpr (Or.inr ⟨first, distinct⟩)
  exact Store.mem_put_iff.mpr (Or.inr ⟨second, distinct⟩)

private theorem Selecting.firstIn_rivalStore (selecting : Selecting requirement callers initial)
    (before : key (own requirement callers lower) < key (own requirement callers upper)) :
    (Lookup.byLabels none requirement.selector).firstIn
        (rivalStore requirement callers initial lower upper) =
      some (own requirement callers lower) := by
  apply selecting.firstIn_of_before (own_mem_rivalStore (ObjectKey.ne_of_lt before)) (Or.inl rfl)
  intro other member
  rcases Store.mem_put_iff.mp member with isReady | ⟨inBoth, notUpper⟩
  · rw [isReady]
    exact Or.inr (Or.inr before)
  · rcases Store.mem_put_iff.mp inBoth with isUpper | ⟨inFirst, _⟩
    · rw [isUpper] at notUpper
      exact absurd rfl notUpper
    · rcases Store.mem_put_iff.mp inFirst with isLower | ⟨inInitial, _⟩
      · exact Or.inr (Or.inl isLower)
      · exact Or.inl inInitial

variable [DecidableEq ι]

private theorem exists_run_to_created (operatorNamespace : String) (defaults : Defaults)
    (selecting : Selecting requirement callers initial)
    (distinct : key (own requirement callers lower) ≠ key (own requirement callers upper)) :
    ∃ trace crowd, Crowd.Run (sharedCluster defaults initial)
        (gathering operatorNamespace requirement callers initial) trace crowd ∧
      HasCreated requirement callers trace lower ∧ HasCreated requirement callers trace upper ∧
      crowd.shared =
        (initial.put (own requirement callers lower)).put (own requirement callers upper) ∧
      crowd.programs upper = (awaitCreated (.byLabels none requirement.selector)
        (callers upper).timeout (own requirement callers upper)).run := by
  have different : lower ≠ upper := by
    intro same
    exact distinct (congrArg (fun index => key (own requirement callers index)) same)
  have missed : (Lookup.byLabels none requirement.selector).firstIn initial = none :=
    Lookup.firstIn_eq_none_iff.mpr selecting.unmatched
  have upperFree : (initial.put (own requirement callers lower)).find?
      (key (own requirement callers upper)) = none := by
    rw [Store.find?_put, if_neg distinct]
    exact selecting.free upper
  have placed : ∀ index, Placement.build (callers index).requester requirement defaults
      operatorNamespace (callers index).serial = .ok (own requirement callers index) := by
    intro index
    exact Placement.build_labeled selecting.labeled defaults operatorNamespace
  obtain ⟨upperAnswer, upperLooks⟩ := goes_of_miss operatorNamespace (callers upper).serial
    (callers upper).timeout defaults (selecting.planned (callers upper).requester) missed
  obtain ⟨lowerAnswer, lowerLooks⟩ := goes_of_miss operatorNamespace (callers lower).serial
    (callers lower).timeout defaults (selecting.planned (callers lower).requester) missed
  have lowerCreates := goes_of_creation operatorNamespace (callers lower).serial
    (callers lower).timeout defaults (.byLabels none requirement.selector) (placed lower)
    (selecting.free lower)
  have upperCreates := goes_of_creation operatorNamespace (callers upper).serial
    (callers upper).timeout defaults (.byLabels none requirement.selector) (placed upper)
    upperFree
  -- Both look before either creates its capability.
  have begun : Crowd.Run (sharedCluster defaults initial)
      (gathering operatorNamespace requirement callers initial) []
      (gathering operatorNamespace requirement callers initial) := .start
  have upperBegins : (gathering operatorNamespace requirement callers initial).programs upper =
      provide operatorNamespace (callers upper).serial (callers upper).requester requirement
        (callers upper).timeout := rfl
  obtain ⟨looked, lookedRun, lookedStore, upperLooked, lowerWaits⟩ :=
    begun.goes upperBegins rfl upperLooks
  obtain ⟨rivalled, rivalledRun, rivalledStore, _, upperWaits⟩ :=
    lookedRun.goes (lowerWaits lower different) lookedStore (lowerLooks.trans lowerCreates)
  obtain ⟨created, createdRun, createdStore, upperCreated, _⟩ :=
    rivalledRun.goes ((upperWaits upper different.symm).trans upperLooked) rivalledStore
      upperCreates
  refine ⟨_, created, createdRun, ⟨own requirement callers lower, ?_⟩,
    ⟨own requirement callers upper, ?_⟩, createdStore, upperCreated⟩
  · refine List.mem_append_right _ (List.mem_append_left _ (Crowd.mem_eventsOf ?_))
    exact List.mem_append_right _ (List.mem_cons_of_mem _ List.mem_cons_self)
  · refine List.mem_append_left _ (Crowd.mem_eventsOf ?_)
    exact List.mem_cons_of_mem _ List.mem_cons_self

/-- The later of two capabilities is settled first, and its caller then finds the other one. -/
theorem exists_run_to_unsettled (operatorNamespace : String) (defaults : Defaults)
    (selecting : Selecting requirement callers initial)
    (before : key (own requirement callers lower) < key (own requirement callers upper)) :
    ∃ trace crowd, Crowd.Run (sharedCluster defaults initial)
        (gathering operatorNamespace requirement callers initial) trace crowd ∧
      HasCreated requirement callers trace lower ∧ HasCreated requirement callers trace upper ∧
      ownReady requirement callers lower ∈ crowd.shared.objects ∧
      ownReady requirement callers upper ∈ crowd.shared.objects ∧
      crowd.programs upper = .done
        (.error (.inconsistent (own requirement callers lower).home
          (own requirement callers lower).name "capability is not provisioned yet")) := by
  have distinct := ObjectKey.ne_of_lt before
  obtain ⟨trace, crowd, run, lowerCreated, upperCreated, isShared, upperWaits⟩ :=
    exists_run_to_created operatorNamespace defaults selecting distinct
  let unsettled := rivalStore requirement callers initial lower upper
  have settlesUpper : Settles initial crowd.shared unsettled := by
    rw [isShared]
    exact settles_own selecting Store.mem_put_self
  have readyThere : ownReady requirement callers upper ∈ unsettled.objects :=
    Store.mem_put_self
  obtain ⟨answer, upperGoes⟩ := goes_of_settled (callers upper).timeout defaults
    (own requirement callers upper) readyThere rfl rfl (selecting.firstIn_rivalStore before)
  obtain ⟨ended, endedRun, endedStore, upperEnded, _⟩ :=
    (run.step (.acted settlesUpper)).goes upperWaits rfl upperGoes
  have settlesLower : Settles initial ended.shared
      (unsettled.put (ownReady requirement callers lower)) := by
    rw [endedStore]
    exact settles_own selecting (own_mem_rivalStore distinct)
  refine ⟨_, _, endedRun.step (.acted settlesLower), lowerCreated.mono ?_, upperCreated.mono ?_,
    Store.mem_put_self, Store.mem_put_iff.mpr (Or.inr ⟨readyThere, distinct.symm⟩),
    upperEnded⟩
  · exact List.subset_cons_of_subset _
      (List.subset_append_of_subset_right _ (List.subset_cons_self _ _))
  · exact List.subset_cons_of_subset _
      (List.subset_append_of_subset_right _ (List.subset_cons_self _ _))

end Rivalry

/-! ## Two callers -/

/-- Every caller has created its capability, and each of these is settled. -/
structure Fulfilled (requirement : Requirement) (callers : ι → Caller)
    (trace : List (Crowd.Event ι CapabilityCall CapabilityCall.Answer))
    (store : Store Capability) : Prop where
  created : ∀ index, HasCreated requirement callers trace index
  settled : ∀ index, ∃ status : CapabilityStatus, status.Serves ∧
    { own requirement callers index with status := some status } ∈ store.objects

/-- A caller gets a result in whatever order things happen, if all callers create their capabilities
and these are settled. -/
def ReliesOnResult [DecidableEq ι] (operatorNamespace : String) (defaults : Defaults)
    (requirement : Requirement) (callers : ι → Caller) (initial : Store Capability)
    (index : ι) : Prop :=
  ∀ trace crowd outcome,
    Crowd.Run (sharedCluster defaults initial)
        (gathering operatorNamespace requirement callers initial) trace crowd →
      Fulfilled requirement callers trace crowd.shared →
      crowd.programs index = .done outcome → ∃ result, outcome = .ok result

section Pair

variable {callers : Bool → Caller} {index : Bool}

private theorem reliesOnResult_of_before (selecting : Selecting requirement callers initial)
    (before : key (own requirement callers index) < key (own requirement callers (!index))) :
    ReliesOnResult operatorNamespace defaults requirement callers initial index := by
  intro trace crowd outcome run _ program
  cases ending_of_selecting selecting run program with
  | provided ready => exact ⟨_, rfl⟩
  | unsettled other below =>
      rcases Bool.eq_or_eq_not other index with isIndex | isOther
      · rw [isIndex] at below
        exact absurd below (ObjectKey.lt_irrefl _)
      · rw [isOther] at below
        exact absurd (ObjectKey.lt_trans below before) (ObjectKey.lt_irrefl _)

private theorem not_reliesOnResult_of_after (selecting : Selecting requirement callers initial)
    (after : key (own requirement callers (!index)) < key (own requirement callers index)) :
    ¬ ReliesOnResult operatorNamespace defaults requirement callers initial index := by
  intro always
  obtain ⟨trace, crowd, run, otherCreated, created, otherReady, ready, program⟩ :=
    exists_run_to_unsettled operatorNamespace defaults selecting after
  have serves : (CapabilityStatus.serving "service").Serves :=
    CapabilityStatus.serves_serving (by decide)
  have fulfilled : Fulfilled requirement callers trace crowd.shared := by
    constructor
    · intro other
      rcases Bool.eq_or_eq_not other index with isIndex | isOther
      · exact isIndex ▸ created
      · exact isOther ▸ otherCreated
    · intro other
      rcases Bool.eq_or_eq_not other index with isIndex | isOther
      · exact ⟨_, serves, isIndex ▸ ready⟩
      · exact ⟨_, serves, isOther ▸ otherReady⟩
  obtain ⟨result, isResult⟩ := always trace crowd _ run fulfilled program
  cases isResult

end Pair

/-- Of two callers with a selector, whatever the order of their steps, each goes on to its end in
no more than six requests, and ends with a settled capability of theirs or because one before its own
is not settled yet.  Where both create their own and both are settled, a caller can rely on a result
exactly if its own capability is before the other one. -/
theorem provide_labeledPair {callers : Bool → Caller}
    (selecting : Selecting requirement callers initial)
    (distinct : key (own requirement callers true) ≠ key (own requirement callers false))
    (operatorNamespace : String) (defaults : Defaults) :
    (∀ trace crowd, Crowd.Run (sharedCluster defaults initial)
        (gathering operatorNamespace requirement callers initial) trace crowd → ∀ index,
      (∀ outcome, crowd.programs index = .done outcome →
        Ending requirement callers index outcome) ∧
      ((∃ outcome, crowd.programs index = .done outcome) ∨
        ∃ event after, Crowd.Step (sharedCluster defaults initial) crowd event after ∧
          (event.isOf index = true ∨ event.isAct = true)) ∧
      trace.countP (Crowd.Event.isOf index) ≤ 6) ∧
    ∀ index, ReliesOnResult operatorNamespace defaults requirement callers initial index ↔
      key (own requirement callers index) < key (own requirement callers (!index)) := by
  constructor
  · intro trace crowd run index
    exact ⟨fun outcome program => ending_of_selecting selecting run program,
      progress_of_selecting selecting run index, calls_of_gathering run index⟩
  · intro index
    have different : key (own requirement callers (!index)) ≠
        key (own requirement callers index) := by
      cases index with
      | false => exact distinct
      | true => exact distinct.symm
    constructor
    · intro always
      rcases ObjectKey.lt_or_eq_or_lt (key (own requirement callers index))
        (key (own requirement callers (!index))) with before | same | after
      · exact before
      · exact absurd same.symm different
      · exact absurd always (not_reliesOnResult_of_after selecting after)
    · intro before
      exact reliesOnResult_of_before selecting before

/-- A shop and a desk, in different teams, that both select a database of the payments team. -/
def paymentsCallers (isShop : Bool) : Caller :=
  { teamCallers isShop with
    requester := if isShop then ⟨"shop", "retail"⟩ else ⟨"desk", "billing"⟩ }

private theorem selecting_paymentsCallers :
    Selecting paymentsDatabase paymentsCallers (.empty : Store Capability) where
  labeled := rfl
  selects := rfl
  plain := by decide
  housed := by decide
  unmatched _ member := nomatch member
  free _ := rfl

/-- The desk can rely on a result, the shop cannot. -/
theorem provide_labeledPair_payments :
    ReliesOnResult "operators" {} paymentsDatabase paymentsCallers .empty false ∧
      ¬ ReliesOnResult "operators" {} paymentsDatabase paymentsCallers .empty true := by
  have distinct : key (own paymentsDatabase paymentsCallers true) ≠
      key (own paymentsDatabase paymentsCallers false) := by decide
  have pair := (provide_labeledPair selecting_paymentsCallers distinct "operators" {}).2
  constructor
  · exact (pair false).mpr (by decide)
  · intro always
    have below := (pair true).mp always
    revert below
    decide

end Provision

end Provisioning
