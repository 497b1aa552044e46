import Provisioning.Proofs.Kinds
import Provisioning.Proofs.Surroundings
import Provisioning.Proofs.Unscoped

/-!
# Requirements without a scope

A call for a requirement without a scope does what a call with the namespace scope written out does,
except for its lookups.  While both lookups find the same, the calls come to the same ends; where they
do not, the call without the scope is refused, because what it finds is of another scope.

Main statement: when the two are alike (`provide_alike_iff`).
-/

namespace Provisioning

open ClusterObject

/-! ## The two calls -/

namespace Provision

variable {operatorNamespace : String} {serial otherSerial : Serial} {requester : Requester}
  {requirement : Requirement} {timeout : Duration}

/-- The calls for the two requirements differ in their lookups only. -/
theorem mirrors_provide :
    Mirrors Capability.IsNamespaced (Lookup.ofUnscoped requester requirement)
      (Lookup.ofNamespaced requester requirement)
      (provide operatorNamespace serial requester requirement.unscoped timeout)
      (provide operatorNamespace otherSerial requester requirement.inNamespace timeout) := by
  rw [provide_eq_asks _ _ Lookup.plan_unscoped, provide_eq_asks _ _ Lookup.plan_inNamespace]
  apply Mirrors.looked
  intro found?
  cases found? with
  | some existing => exact .same _
  | none =>
      simp only [run_provideNew]
      apply Mirrors.called
      · intro capability isCreation
        cases isCreation
      · intro answer
        cases answer with
        | error failure => exact .same _
        | ok defaults =>
            have sameBuild : Placement.build requester requirement.unscoped defaults
                operatorNamespace serial =
                Placement.build requester requirement.inNamespace defaults operatorNamespace
                  otherSerial := Placement.build_unscoped
            simp only [sameBuild]
            cases placed : Placement.build requester requirement.inNamespace defaults
                operatorNamespace otherSerial with
            | error error => exact .same _
            | ok built =>
                exact mirrors_createOrAdopt _ _ _ _ _ (Placement.isNamespaced_of_build placed)

/-! ## Courses that end for the scope -/

/-- A program has ended because a capability is of another scope. -/
def IsScopeRefusal
    (ended : CapabilityProgram (Except ProvisioningError ProvisionResult)) : Prop :=
  ∃ error, ended = .done (.error error) ∧ error.kind = "ScopeMismatch"

variable {surroundings : Surroundings} {store finish : Store Capability} {lookup : Lookup}
  {exchanges : List Exchange}
  {ended : CapabilityProgram (Except ProvisioningError ProvisionResult)}

private theorem not_isScopeRefusal_error {error : ProvisioningError}
    (other : error.kind ≠ "ScopeMismatch") : ¬ IsScopeRefusal (.done (.error error)) := by
  rintro ⟨_, ⟨⟩, isScope⟩
  exact other isScope

private theorem not_isScopeRefusal_of_plain (plain : EndsPlainly ended) : ¬ IsScopeRefusal ended := by
  rintro ⟨error, rfl, isScope⟩
  exact plain.kind_of_error.1 isScope

private theorem AwaitWay.not_isScopeRefusal {target : Capability}
    (way : AwaitWay surroundings.Answers timeout lookup target store exchanges ended finish) :
    ¬ IsScopeRefusal ended := by
  rcases way.plain_or_misses with plain | ⟨target, _, _⟩
  · exact not_isScopeRefusal_of_plain plain
  · apply not_isScopeRefusal_error
    simp [ProvisioningError.kind]

/-! ## When there are such courses -/

/-- A course ends because a capability is of another scope, and has created nothing. -/
def IsRefused (exchanges : List Exchange)
    (ended : CapabilityProgram (Except ProvisioningError ProvisionResult)) : Prop :=
  IsScopeRefusal ended ∧ created exchanges = []

/-- Something of another scope has the place of a capability. -/
def IsTakenByOther (store : Store Capability) (place : ObjectKey) : Prop :=
  ∃ taken, store.find? place = some taken ∧ ¬ taken.IsNamespaced

theorem IsTakenByOther.retained_iff {after : Store Capability} {place : ObjectKey}
    (retains : Retains store after) : IsTakenByOther after place ↔ IsTakenByOther store place := by
  cases there : store.find? place with
  | none =>
      have free := retains.find?_eq_none there
      simp only [IsTakenByOther, there, free, reduceCtorEq, false_and, exists_false]
  | some taken =>
      obtain ⟨present, isPresent, same⟩ := retains.find?_eq_some there
      simp only [IsTakenByOther, there, isPresent, Option.some.injEq, exists_eq_left',
        same.isNamespaced_iff]

/-- What has the place of a refused creation is read. -/
theorem exists_read_of_refused {built : Capability} {failure : Failure}
    {answer : Except Failure (Option Capability)} {middle : Store Capability}
    (refused : surroundings.Answers store (.create built) (.error failure) middle)
    (read : surroundings.Answers middle (.get built.home built.name) answer finish) :
    ∃ existing, answer = .ok (some existing) ∧
      (IsTakenByOther store (key built) ↔ ¬ existing.IsNamespaced) := by
  obtain ⟨_, turns, other, isTaken⟩ := RepliesAfter.taken refused
  obtain ⟨isAnswer, turnsAgain⟩ := RepliesAfter.read read
  have retains := surroundings.retains _ _ turnsAgain
  obtain ⟨existing, isThere, _⟩ := retains.find?_eq_some isTaken
  refine ⟨existing, isAnswer.trans (congrArg Except.ok isThere), ?_⟩
  rw [← IsTakenByOther.retained_iff ((surroundings.retains _ _ turns).trans retains)]
  simp only [IsTakenByOther, isThere, Option.some.injEq, exists_eq_left']

/-- What is of another scope is refused for that, and else for something else. -/
theorem isScopeRefusal_of_invalid_iff {existing : Capability} {error : ProvisioningError}
    (invalid : existing.validate requirement.inNamespace = .error error) :
    IsScopeRefusal (.done (.error error)) ↔ ¬ existing.IsNamespaced := by
  by_cases isNamespaced : existing.IsNamespaced
  · have sameScope : existing.scopeLabel? =
        some requirement.inNamespace.effectiveScope.label := isNamespaced
    have kind := Capability.kind_of_validate_of_scopeLabel sameScope invalid
    have other : error.kind ≠ "ScopeMismatch" := by
      rw [kind]
      decide
    exact iff_of_false (not_isScopeRefusal_error other) (not_not_intro isNamespaced)
  · have otherScope : existing.scopeLabel? ≠
        some requirement.inNamespace.effectiveScope.label := isNamespaced
    rw [Capability.validate_of_scopeLabel_ne otherScope, Except.error.injEq] at invalid
    exact iff_of_true ⟨error, rfl, invalid ▸ rfl⟩ isNamespaced

private theorem isRefused_of_createOrAdopt_iff {built : Capability} (isOver : IsOver ended)
    (goes : (createOrAdopt requirement.inNamespace built >>= awaitCreated lookup timeout).run.Goes
      surroundings.Answers store exchanges ended finish) :
    IsRefused exchanges ended ↔ IsTakenByOther store (key built) := by
  cases (createWay_iff isOver).mpr goes with
  | created written _ =>
      obtain ⟨free, turns, isFree, _⟩ := RepliesAfter.free written
      rw [← IsTakenByOther.retained_iff (surroundings.retains _ _ turns)]
      simp [IsRefused, IsTakenByOther, isFree, created, createdBy]
  | refused refused untaken => cases untaken.symm.trans (RepliesAfter.taken refused).1
  | unread refused _ read =>
      obtain ⟨_, isRead, _⟩ := exists_read_of_refused refused read
      cases isRead
  | vanished refused _ read =>
      obtain ⟨_, isRead, _⟩ := exists_read_of_refused refused read
      cases isRead
  | clashed refused _ read invalid =>
      obtain ⟨_, isRead, taken⟩ := exists_read_of_refused refused read
      cases isRead
      rw [taken, ← isScopeRefusal_of_invalid_iff invalid]
      exact and_iff_left rfl
  | adopted refused _ read valid awaits =>
      obtain ⟨_, isRead, taken⟩ := exists_read_of_refused refused read
      cases isRead
      have isNamespaced := (Capability.validate_eq_ok_iff.mp valid).1
      rw [taken]
      exact iff_of_false (fun refused => awaits.not_isScopeRefusal refused.1)
        (not_not_intro isNamespaced)

/-- The call with the scope written out is refused exactly where its lookup finds nothing and
something of another scope has the place of what it would create. -/
theorem isRefused_inNamespace_iff (isOver : IsOver ended)
    (goes : (provide operatorNamespace serial requester requirement.inNamespace timeout).Goes
      surroundings.Answers store exchanges ended finish) :
    IsRefused exchanges ended ↔
      (Lookup.ofNamespaced requester requirement).firstIn store = none ∧
        IsTakenByOther store ⟨requester.namespaceName,
          Placement.baseName requirement ++ "-in-namespace"⟩ := by
  rw [provide_eq_asks _ _ Lookup.plan_inNamespace] at goes
  obtain ⟨answer, middle, rest, rfl, turns, replied, looked⟩ := (goes_asks_iff isOver).mp goes
  have retains := surroundings.retains _ _ turns
  rw [← IsTakenByOther.retained_iff retains, ← retains.firstIn_eq_none_iff]
  cases isFirst : (Lookup.ofNamespaced requester requirement).firstIn middle with
  | some found =>
      have valid := Lookup.valid_of_ofNamespaced (Lookup.firstIn_eq_some_iff.mp isFirst).2.1
      simp only [isFirst] at looked
      simp only [reduceCtorEq, false_and, iff_false]
      have plain := ((useWay_iff isOver).mpr looked).plain valid
      exact fun refused => not_isScopeRefusal_of_plain plain refused.1
  | none =>
      simp only [isFirst, run_provideNew] at looked
      simp only [true_and]
      obtain ⟨read, after, later, rfl, ⟨between, turnsAgain, rfl, rfl⟩, loaded⟩ :=
        isOver.goes_call_iff.mp looked
      obtain ⟨built, placed⟩ : ∃ built, Placement.build requester requirement.inNamespace
          surroundings.defaults operatorNamespace serial = .ok built :=
        Placement.exists_build Lookup.plan_inNamespace _ _ _
      have place := Placement.key_of_build_inNamespace placed
      simp only [placed] at loaded
      rw [← IsTakenByOther.retained_iff (surroundings.retains _ _ turnsAgain), ← place,
        ← isRefused_of_createOrAdopt_iff isOver loaded]
      rw [IsRefused, IsRefused, created_cons_of_none (createdBy_lookup answer),
        created_cons_of_none rfl]

/-- The call without a scope is refused where the first capability that its lookup finds is of
another scope. -/
theorem isRefused_unscoped (unshared : ¬ Lookup.FindsNamespaced requester requirement store)
    (isOver : IsOver ended)
    (goes : (provide operatorNamespace serial requester requirement.unscoped timeout).Goes
      surroundings.Answers store exchanges ended finish) : IsRefused exchanges ended := by
  obtain ⟨found, isFirst, otherScope⟩ := Lookup.not_findsNamespaced_iff.mp unshared
  have shared : requirement.unscoped.effectiveScope = .namespaced := rfl
  have invalid := Capability.validate_of_not_isNamespaced shared otherScope
  obtain ⟨rfl, nothing⟩ :=
    ended_of_invalid_first Lookup.plan_unscoped isFirst invalid isOver goes
  exact ⟨⟨_, rfl, rfl⟩, nothing⟩

private theorem exists_course_unscoped (surroundings : Surroundings)
    (unshared : ¬ Lookup.FindsNamespaced requester requirement store) :
    ∃ exchanges ended finish,
      (provide operatorNamespace serial requester requirement.unscoped timeout).Goes
          surroundings.Answers store exchanges ended finish ∧ IsOver ended := by
  obtain ⟨found, isFirst, otherScope⟩ := Lookup.not_findsNamespaced_iff.mp unshared
  have shared : requirement.unscoped.effectiveScope = .namespaced := rfl
  have invalid := Capability.validate_of_not_isNamespaced shared otherScope
  obtain ⟨exchanges, goes⟩ :=
    goes_of_invalid_first operatorNamespace serial timeout surroundings Lookup.plan_unscoped isFirst
      invalid
  exact ⟨exchanges, _, store, goes, trivial⟩

/-- Where something that is not valid has the place of what is created, there is a course that ends
with its error. -/
theorem exists_course_of_taken (surroundings : Surroundings) {built existing : Capability}
    {error : ProvisioningError} (there : store.find? (key built) = some existing)
    (invalid : existing.validate requirement = .error error) :
    ∃ exchanges, (createOrAdopt requirement built >>= awaitCreated lookup timeout).run.Goes
      surroundings.Answers store exchanges (.done (.error error)) store := by
  have refusal : surroundings.Answers store (.create built)
      (.error (.server (.refused (Store.takenResponse built.name)))) store :=
    ⟨store, surroundings.idle store, (replies_create_of_taken _ there).mpr ⟨rfl, rfl⟩⟩
  have isTaken : Failure.saysTaken (.server (.refused (Store.takenResponse built.name))) =
      true := rfl
  have read : surroundings.Answers store (.get built.home built.name) (.ok (some existing))
      store :=
    ⟨store, surroundings.idle store, (congrArg Except.ok there).symm, rfl⟩
  have adopting : (adopt requirement built >>= awaitCreated lookup timeout).run.Goes
      surroundings.Answers store [⟨.get built.home built.name, .ok (some existing)⟩]
      (.done (.error error)) store := by
    rw [run_adopt_bind]
    refine .call read ?_
    simp only [invalid]
    exact .still _ _
  refine ⟨[⟨.create built, .error (.server (.refused (Store.takenResponse built.name)))⟩,
    ⟨.get built.home built.name, .ok (some existing)⟩], ?_⟩
  rw [run_createOrAdopt_bind]
  refine .call refusal ?_
  simp only [if_pos isTaken]
  exact adopting

private theorem exists_course_inNamespace (surroundings : Surroundings)
    (missed : (Lookup.ofNamespaced requester requirement).firstIn store = none)
    (taken : IsTakenByOther store ⟨requester.namespaceName,
      Placement.baseName requirement ++ "-in-namespace"⟩) :
    ∃ exchanges ended finish,
      (provide operatorNamespace serial requester requirement.inNamespace timeout).Goes
          surroundings.Answers store exchanges ended finish ∧ IsOver ended := by
  obtain ⟨answer, replied⟩ := (Lookup.ofNamespaced requester requirement).exists_reply
    surroundings.defaults store
  obtain ⟨built, placed⟩ : ∃ built, Placement.build requester requirement.inNamespace
      surroundings.defaults operatorNamespace serial = .ok built :=
    Placement.exists_build Lookup.plan_inNamespace _ _ _
  obtain ⟨existing, there, otherScope⟩ := taken
  rw [← Placement.key_of_build_inNamespace placed] at there
  have shared : requirement.inNamespace.effectiveScope = .namespaced := rfl
  have invalid := Capability.validate_of_not_isNamespaced shared otherScope
  let refused : CapabilityProgram (Except ProvisioningError ProvisionResult) :=
    .done (.error (.scopeMismatch existing.path Scope.namespaced.label existing.scopeLabel?))
  obtain ⟨exchanges, creating⟩ := exists_course_of_taken surroundings there invalid
  have loaded : surroundings.Answers store .loadDefaults (.ok surroundings.defaults) store :=
    ⟨store, surroundings.idle store, rfl, rfl⟩
  have providing : (provideNew operatorNamespace serial requester requirement.inNamespace timeout
      (Lookup.ofNamespaced requester requirement)).run.Goes surroundings.Answers store
      (⟨.loadDefaults, .ok surroundings.defaults⟩ :: exchanges) refused store := by
    rw [run_provideNew]
    refine .call loaded ?_
    simp only [placed]
    exact creating
  rw [provide_eq_asks _ _ Lookup.plan_inNamespace]
  refine ⟨⟨_, answer⟩ :: ⟨.loadDefaults, .ok surroundings.defaults⟩ :: exchanges, refused, store,
    goes_asks (surroundings.idle store) replied ?_, trivial⟩
  rw [missed]
  exact providing

theorem SameEnd.isRefused {others : List Exchange}
    {otherEnd : CapabilityProgram (Except ProvisioningError ProvisionResult)}
    (same : SameEnd ended otherEnd) (sameCreated : created others = created exchanges)
    (refused : IsRefused exchanges ended) : IsRefused others otherEnd := by
  refine ⟨?_, sameCreated.trans refused.2⟩
  obtain ⟨error, isEnd, isScope⟩ := refused.1
  cases same with
  | provided result => cases isEnd
  | broken message => cases isEnd
  | refused sameKind =>
      cases isEnd
      exact ⟨_, rfl, sameKind.symm.trans isScope⟩

private theorem sameEnd_of_isRefused {others : List Exchange}
    {otherEnd : CapabilityProgram (Except ProvisioningError ProvisionResult)}
    (refused : IsRefused exchanges ended) (otherRefused : IsRefused others otherEnd) :
    SameEnd ended otherEnd ∧ created others = created exchanges := by
  obtain ⟨⟨error, rfl, isScope⟩, nothing⟩ := refused
  obtain ⟨⟨otherError, rfl, otherIsScope⟩, otherNothing⟩ := otherRefused
  exact ⟨.refused (isScope.trans otherIsScope.symm), otherNothing.trans nothing.symm⟩

private theorem alike_iff :
    Alike surroundings store
        (provide operatorNamespace serial requester requirement.unscoped timeout)
        (provide operatorNamespace otherSerial requester requirement.inNamespace timeout) ↔
      Lookup.FindsNamespaced requester requirement store ∨
        (Lookup.ofNamespaced requester requirement).firstIn store = none ∧
          IsTakenByOther store ⟨requester.namespaceName,
            Placement.baseName requirement ++ "-in-namespace"⟩ := by
  by_cases finds : Lookup.FindsNamespaced requester requirement store
  · simp only [finds, true_or, iff_true]
    have kept : ∀ store after, Lookup.FindsNamespaced requester requirement store →
        Retains store after → Lookup.FindsNamespaced requester requirement after :=
      fun _ _ finds retains => (Lookup.FindsNamespaced.retained_iff retains).mpr finds
    have put : ∀ store capability, Lookup.FindsNamespaced requester requirement store →
        store.find? (key capability) = none → capability.IsNamespaced →
          Lookup.FindsNamespaced requester requirement (store.put capability) :=
      fun _ _ finds free isNamespaced => finds.put free isNamespaced
    constructor
    · exact mirrors_provide.covers (fun _ finds => finds.firstIn_eq) kept put finds
    · exact mirrors_provide.symm.covers (fun _ finds => finds.firstIn_eq.symm) kept put finds
  · simp only [finds, false_or]
    constructor
    · intro alike
      obtain ⟨exchanges, ended, finish, goes, isOver⟩ := exists_course_unscoped surroundings finds
      obtain ⟨others, otherEnd, otherFinish, otherGoes, same, sameCreated⟩ :=
        alike.1 exchanges ended finish goes isOver
      have refused := same.isRefused sameCreated (isRefused_unscoped finds isOver goes)
      exact (isRefused_inNamespace_iff same.isOver otherGoes).mp refused
    · rintro ⟨missed, taken⟩
      constructor
      · intro exchanges ended finish goes isOver
        obtain ⟨others, otherEnd, otherFinish, otherGoes, otherOver⟩ :=
          exists_course_inNamespace surroundings missed taken
        exact ⟨others, otherEnd, otherFinish, otherGoes,
          sameEnd_of_isRefused (isRefused_unscoped finds isOver goes)
            ((isRefused_inNamespace_iff otherOver otherGoes).mpr ⟨missed, taken⟩)⟩
      · intro exchanges ended finish goes isOver
        obtain ⟨others, otherEnd, otherFinish, otherGoes, otherOver⟩ :=
          exists_course_unscoped surroundings finds
        exact ⟨others, otherEnd, otherFinish, otherGoes,
          sameEnd_of_isRefused ((isRefused_inNamespace_iff isOver goes).mpr ⟨missed, taken⟩)
            (isRefused_unscoped finds otherOver otherGoes)⟩

/-- Without a scope a requirement comes to the same end as with the namespace scope written out, and
creates the same, exactly in two cases: the first capability that it finds is labeled as shared
within its namespace, or it finds none; or the other requirement finds none, and cannot create one
because something of another scope has the place.  Where the first that it finds is not labeled so,
it is refused for the scope and creates nothing. -/
theorem provide_alike_iff (operatorNamespace : String) (serial otherSerial : Serial)
    (requester : Requester) (requirement : Requirement) (timeout : Duration)
    (surroundings : Surroundings) (store : Store Capability) :
    (Alike surroundings store
        (provide operatorNamespace serial requester requirement.unscoped timeout)
        (provide operatorNamespace otherSerial requester requirement.inNamespace timeout) ↔
      Lookup.FindsNamespaced requester requirement store ∨
        (Lookup.ofNamespaced requester requirement).firstIn store = none ∧
          IsTakenByOther store ⟨requester.namespaceName,
            Placement.baseName requirement ++ "-in-namespace"⟩) ∧
      (¬ Lookup.FindsNamespaced requester requirement store →
        ∀ exchanges ended finish,
          (provide operatorNamespace serial requester requirement.unscoped timeout).Goes
              surroundings.Answers store exchanges ended finish →
            IsOver ended → IsRefused exchanges ended) := by
  refine ⟨alike_iff, ?_⟩
  intro unshared exchanges ended finish goes isOver
  exact isRefused_unscoped unshared isOver goes

/-! ## A quiet cluster with two databases -/

/-- A cluster in which nothing happens: a wait ends when what it waits for is there and settled. -/
def quietSurroundings : Surroundings where
  defaults := ⟨.empty⟩
  turns before after := before = after
  ends store place _ ended := ∃ capability, store.find? place = some capability ∧
    capability.phase.isTerminal = true ∧ ended = .met capability
  idle _ := rfl
  retains := by
    rintro before _ rfl
    exact .refl before

/-- Two databases of a namespace, in the order of their names. -/
def retailDatabases (first second : Scope) : Store Capability :=
  .ofList
    [.served "retail" "analytics" { capability := .dbms, scope := some first },
      .served "retail" "orders" { capability := .dbms, scope := some second }]

/-- A shop is handed the first database, which is for the whole namespace, with or without the
scope. -/
theorem provide_alike_shared :
    Alike quietSurroundings (retailDatabases .namespaced .dedicated)
      (provide "operators" 0 ⟨"shop", "retail"⟩ { capability := .dbms } ⟨0⟩)
      (provide "operators" 0 ⟨"shop", "retail"⟩ { capability := .dbms, scope := some .namespaced }
        ⟨0⟩) := by
  refine (provide_alike_iff "operators" 0 0 ⟨"shop", "retail"⟩ { capability := .dbms } ⟨0⟩
    quietSurroundings _).1.mpr (Or.inl ?_)
  intro found isFirst
  have sharedFirst : (Lookup.ofUnscoped ⟨"shop", "retail"⟩ { capability := .dbms }).firstIn
      (retailDatabases .namespaced .dedicated) =
      some (.served "retail" "analytics" { capability := .dbms, scope := some .namespaced }) := by
    decide
  rw [sharedFirst, Option.some.injEq] at isFirst
  rw [← isFirst, Capability.IsNamespaced]
  decide

/-- Without a scope a shop comes across the database of another, and is refused; with the scope
written out it is handed the database of the namespace. -/
theorem provide_dedicated_first :
    ¬ Alike quietSurroundings (retailDatabases .dedicated .namespaced)
      (provide "operators" 0 ⟨"shop", "retail"⟩ { capability := .dbms } ⟨0⟩)
      (provide "operators" 0 ⟨"shop", "retail"⟩ { capability := .dbms, scope := some .namespaced }
        ⟨0⟩) := by
  let shop : Requester := ⟨"shop", "retail"⟩
  let database : Requirement := { capability := .dbms }
  let store : Store Capability := retailDatabases .dedicated .namespaced
  intro alike
  have dedicatedFirst : (Lookup.ofUnscoped shop database).firstIn store =
      some (.served "retail" "analytics" { capability := .dbms, scope := some .dedicated }) := by
    decide
  have sharedFirst : (Lookup.ofNamespaced shop database).firstIn store =
      some (.served "retail" "orders" database.inNamespace) := by
    decide
  have unshared : ¬ Lookup.FindsNamespaced shop database store := by
    intro finds
    have isNamespaced := finds _ dedicatedFirst
    rw [Capability.IsNamespaced] at isNamespaced
    exact absurd isNamespaced (by decide)
  have housed : "retail" ≠ "" := by decide
  obtain ⟨result, given, _⟩ : ∃ result, ProvisionResult.ofCapability
      (.served "retail" "orders" database.inNamespace) = .ok result ∧ _ :=
    Capability.ofCapability_served housed
  have handedOut : (useExisting database.inNamespace ⟨0⟩
      (.served "retail" "orders" database.inNamespace)).run.Goes quietSurroundings.Answers
      store [] (.done (.ok result)) store := by
    have valid : (Capability.served "retail" "orders" database.inNamespace).validate
        database.inNamespace = .ok () := Capability.validate_served .dbms
    have terminal := Capability.isTerminal_of_successful
      (ProvisionResult.ofCapability_eq_ok_iff.mp given).1
    simp only [run_useExisting, valid, if_pos terminal, given]
    exact .still _ _
  obtain ⟨answer, replied⟩ := (Lookup.ofNamespaced shop database).exists_reply
    quietSurroundings.defaults store
  have provided : (provide "operators" 0 shop database.inNamespace ⟨0⟩).Goes
      quietSurroundings.Answers store [⟨_, answer⟩] (.done (.ok result)) store := by
    rw [provide_eq_asks _ _ Lookup.plan_inNamespace]
    refine goes_asks (quietSurroundings.idle store) replied ?_
    rw [sharedFirst]
    exact handedOut
  obtain ⟨exchanges, ended, finish, goes, same, _⟩ := alike.2 _ _ _ provided trivial
  obtain ⟨⟨error, isEnd, _⟩, _⟩ := isRefused_unscoped unshared same.isOver goes
  rw [isEnd] at same
  cases same

end Provision

end Provisioning
