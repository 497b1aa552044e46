import Provisioning.Proofs.Exchanges

/-!
# The ways of a call

However its requests are answered, a call has few ways to its end.  They are listed for each of its
parts: what it does with what its lookup has found (`UseWay`), its wait for what was placed and the
lookup after it (`AwaitWay`), the creation (`CreateWay`), all that it does where nothing was found
(`NewWay`), and the whole call (`CallWay`).  What is proved about calls goes through these lists.

Main statement: the ways of a call are its runs to an end (`callWay_iff`).
-/

namespace Provisioning

namespace Provision

/-- A program that is not waiting for an answer. -/
def IsOver {α : Type} : CapabilityProgram α → Prop
  | .done _ => True
  | .abort _ => True
  | .call .. => False

theorem isOver_done {α : Type} (value : α) : IsOver (.done value) :=
  trivial

/-! ## The lists -/

section Ways

variable {σ : Type} (answers : σ → (request : CapabilityCall) → request.Answer → σ → Prop)
  (operatorNamespace : String) (serial : Serial) (requester : Requester)
  (requirement : Requirement) (timeout : Duration) (lookup : Lookup)

/-- What was found is used, once it is settled. -/
inductive UseWay (existing : Capability) (start : σ) : List Exchange →
    CapabilityProgram (Except ProvisioningError ProvisionResult) → σ → Prop where
  | invalid {error : ProvisioningError} (invalid : existing.validate requirement = .error error) :
      UseWay existing start [] (.done (.error error)) start
  | settled {outcome : Except ProvisioningError ProvisionResult}
      (valid : existing.validate requirement = .ok ()) (settled : existing.phase.isTerminal = true)
      (given : ProvisionResult.ofCapability existing = outcome) :
      UseWay existing start [] (.done outcome) start
  | awaited {ready : Capability} {outcome : Except ProvisioningError ProvisionResult} {finish : σ}
      (valid : existing.validate requirement = .ok ())
      (unsettled : existing.phase.isTerminal = false)
      (waited : answers start (.awaitSettled existing.home existing.name timeout) (.met ready)
        finish)
      (given : ProvisionResult.ofCapability ready = outcome) :
      UseWay existing start [⟨.awaitSettled existing.home existing.name timeout, .met ready⟩]
        (.done outcome) finish
  | givenUp {error : WaitError} {finish : σ} (valid : existing.validate requirement = .ok ())
      (unsettled : existing.phase.isTerminal = false)
      (waited : answers start (.awaitSettled existing.home existing.name timeout) (.failed error)
        finish) :
      UseWay existing start [⟨.awaitSettled existing.home existing.name timeout, .failed error⟩]
        (.done (.error (.ofWait error))) finish
  | broken {finish : σ} (valid : existing.validate requirement = .ok ())
      (unsettled : existing.phase.isTerminal = false)
      (waited : answers start (.awaitSettled existing.home existing.name timeout) .beyondClock
        finish) :
      UseWay existing start [⟨.awaitSettled existing.home existing.name timeout, .beyondClock⟩]
        (.abort Wait.beyondClockMessage) finish

/-- What was placed is awaited and looked up again. -/
inductive AwaitWay (target : Capability) (start : σ) : List Exchange →
    CapabilityProgram (Except ProvisioningError ProvisionResult) → σ → Prop where
  | givenUp {error : WaitError} {finish : σ}
      (waited : answers start (.awaitSettled target.home target.name timeout) (.failed error)
        finish) :
      AwaitWay target start [⟨.awaitSettled target.home target.name timeout, .failed error⟩]
        (.done (.error (.ofWait error))) finish
  | broken {finish : σ}
      (waited : answers start (.awaitSettled target.home target.name timeout) .beyondClock finish) :
      AwaitWay target start [⟨.awaitSettled target.home target.name timeout, .beyondClock⟩]
        (.abort Wait.beyondClockMessage) finish
  /-- A failed capability gives no result, and is not looked up again. -/
  | failed {ready : Capability} {outcome : Except ProvisioningError ProvisionResult} {finish : σ}
      (waited : answers start (.awaitSettled target.home target.name timeout) (.met ready) finish)
      (failed : ready.phase = .failed) (given : ProvisionResult.ofCapability ready = outcome) :
      AwaitWay target start [⟨.awaitSettled target.home target.name timeout, .met ready⟩]
        (.done outcome) finish
  | unread {ready : Capability} {failure : Failure} {middle finish : σ}
      {answer : lookup.request.Answer}
      (waited : answers start (.awaitSettled target.home target.name timeout) (.met ready) middle)
      (notFailed : ready.phase ≠ .failed) (answered : answers middle lookup.request answer finish)
      (unread : lookup.outcome answer = .error failure) :
      AwaitWay target start
        [⟨.awaitSettled target.home target.name timeout, .met ready⟩, ⟨lookup.request, answer⟩]
        (.done (.error (.failed failure))) finish
  | missed {ready : Capability} {middle finish : σ} {answer : lookup.request.Answer}
      (waited : answers start (.awaitSettled target.home target.name timeout) (.met ready) middle)
      (notFailed : ready.phase ≠ .failed) (answered : answers middle lookup.request answer finish)
      (missed : lookup.outcome answer = .ok none) :
      AwaitWay target start
        [⟨.awaitSettled target.home target.name timeout, .met ready⟩, ⟨lookup.request, answer⟩]
        (.done (.error (.inconsistent target.home target.name
          "provisioned capability is not found by its lookup"))) finish
  | resolved {ready resolved : Capability} {outcome : Except ProvisioningError ProvisionResult}
      {middle finish : σ} {answer : lookup.request.Answer}
      (waited : answers start (.awaitSettled target.home target.name timeout) (.met ready) middle)
      (notFailed : ready.phase ≠ .failed) (answered : answers middle lookup.request answer finish)
      (found : lookup.outcome answer = .ok (some resolved))
      (given : ProvisionResult.ofCapability resolved = outcome) :
      AwaitWay target start
        [⟨.awaitSettled target.home target.name timeout, .met ready⟩, ⟨lookup.request, answer⟩]
        (.done outcome) finish

/-- A capability is created or, where its name is taken, the one that has it is adopted. -/
inductive CreateWay (built : Capability) (start : σ) : List Exchange →
    CapabilityProgram (Except ProvisioningError ProvisionResult) → σ → Prop where
  | created {written : Capability} {middle finish : σ} {exchanges : List Exchange}
      {ended : CapabilityProgram (Except ProvisioningError ProvisionResult)}
      (created : answers start (.create built) (.ok written) middle)
      (awaits : AwaitWay answers timeout lookup built middle exchanges ended finish) :
      CreateWay built start (⟨.create built, .ok written⟩ :: exchanges) ended finish
  | refused {failure : Failure} {finish : σ}
      (refused : answers start (.create built) (.error failure) finish)
      (untaken : failure.saysTaken = false) :
      CreateWay built start [⟨.create built, .error failure⟩] (.done (.error (.failed failure)))
        finish
  | unread {failure reason : Failure} {middle finish : σ}
      (refused : answers start (.create built) (.error failure) middle)
      (taken : failure.saysTaken = true)
      (read : answers middle (.get built.home built.name) (.error reason) finish) :
      CreateWay built start
        [⟨.create built, .error failure⟩, ⟨.get built.home built.name, .error reason⟩]
        (.done (.error (.failed reason))) finish
  | vanished {failure : Failure} {middle finish : σ}
      (refused : answers start (.create built) (.error failure) middle)
      (taken : failure.saysTaken = true)
      (read : answers middle (.get built.home built.name) (.ok none) finish) :
      CreateWay built start
        [⟨.create built, .error failure⟩, ⟨.get built.home built.name, .ok none⟩]
        (.done (.error (.inconsistent built.home built.name
          "create reported the name taken but it cannot be read"))) finish
  | clashed {failure : Failure} {existing : Capability} {error : ProvisioningError}
      {middle finish : σ} (refused : answers start (.create built) (.error failure) middle)
      (taken : failure.saysTaken = true)
      (read : answers middle (.get built.home built.name) (.ok (some existing)) finish)
      (invalid : existing.validate requirement = .error error) :
      CreateWay built start
        [⟨.create built, .error failure⟩, ⟨.get built.home built.name, .ok (some existing)⟩]
        (.done (.error error)) finish
  | adopted {failure : Failure} {existing : Capability} {middle adopted finish : σ}
      {exchanges : List Exchange}
      {ended : CapabilityProgram (Except ProvisioningError ProvisionResult)}
      (refused : answers start (.create built) (.error failure) middle)
      (taken : failure.saysTaken = true)
      (read : answers middle (.get built.home built.name) (.ok (some existing)) adopted)
      (valid : existing.validate requirement = .ok ())
      (awaits : AwaitWay answers timeout lookup existing adopted exchanges ended finish) :
      CreateWay built start
        (⟨.create built, .error failure⟩ :: ⟨.get built.home built.name, .ok (some existing)⟩ ::
          exchanges) ended finish

/-- Nothing was found, and a capability is built. -/
inductive NewWay (start : σ) : List Exchange →
    CapabilityProgram (Except ProvisioningError ProvisionResult) → σ → Prop where
  | unloaded {failure : Failure} {finish : σ}
      (unloaded : answers start .loadDefaults (.error failure) finish) :
      NewWay start [⟨.loadDefaults, .error failure⟩] (.done (.error (.failed failure))) finish
  | unplaced {defaults : Defaults} {error : ProvisioningError} {finish : σ}
      (loaded : answers start .loadDefaults (.ok defaults) finish)
      (unplaced : Placement.build requester requirement defaults operatorNamespace serial =
        .error error) :
      NewWay start [⟨.loadDefaults, .ok defaults⟩] (.done (.error error)) finish
  | placed {defaults : Defaults} {built : Capability} {middle finish : σ}
      {exchanges : List Exchange}
      {ended : CapabilityProgram (Except ProvisioningError ProvisionResult)}
      (loaded : answers start .loadDefaults (.ok defaults) middle)
      (placed : Placement.build requester requirement defaults operatorNamespace serial =
        .ok built)
      (creates : CreateWay answers requirement timeout lookup built middle exchanges ended finish) :
      NewWay start (⟨.loadDefaults, .ok defaults⟩ :: exchanges) ended finish

/-- A call begins with its lookup. -/
inductive CallWay (start : σ) : List Exchange →
    CapabilityProgram (Except ProvisioningError ProvisionResult) → σ → Prop where
  | unread {failure : Failure} {finish : σ} {answer : lookup.request.Answer}
      (answered : answers start lookup.request answer finish)
      (unread : lookup.outcome answer = .error failure) :
      CallWay start [⟨lookup.request, answer⟩] (.done (.error (.failed failure))) finish
  | found {existing : Capability} {middle finish : σ} {answer : lookup.request.Answer}
      {exchanges : List Exchange}
      {ended : CapabilityProgram (Except ProvisioningError ProvisionResult)}
      (answered : answers start lookup.request answer middle)
      (found : lookup.outcome answer = .ok (some existing))
      (uses : UseWay answers requirement timeout existing middle exchanges ended finish) :
      CallWay start (⟨lookup.request, answer⟩ :: exchanges) ended finish
  | missed {middle finish : σ} {answer : lookup.request.Answer} {exchanges : List Exchange}
      {ended : CapabilityProgram (Except ProvisioningError ProvisionResult)}
      (answered : answers start lookup.request answer middle)
      (missed : lookup.outcome answer = .ok none)
      (provides : NewWay answers operatorNamespace serial requester requirement timeout lookup middle
        exchanges ended finish) :
      CallWay start (⟨lookup.request, answer⟩ :: exchanges) ended finish

end Ways

/-! ## Runs to an end -/

section Runs

variable {σ : Type} {answers : σ → (request : CapabilityCall) → request.Answer → σ → Prop}
  {operatorNamespace : String} {serial : Serial} {requester : Requester}
  {requirement : Requirement} {timeout : Duration} {lookup : Lookup} {start finish : σ}
  {exchanges : List Exchange}
  {ended : CapabilityProgram (Except ProvisioningError ProvisionResult)}

/-- A program that waits for an answer is over only after one. -/
theorem IsOver.goes_call_iff {request : CapabilityCall}
    {next : request.Answer → CapabilityProgram (Except ProvisioningError ProvisionResult)}
    (isOver : IsOver ended) :
    Program.Goes answers (.call request next) start exchanges ended finish ↔
      ∃ answer middle rest, exchanges = ⟨request, answer⟩ :: rest ∧
        answers start request answer middle ∧
        (next answer).Goes answers middle rest ended finish := by
  rw [Program.goes_call_iff]
  constructor
  · rintro (⟨_, rfl, _⟩ | goesOn)
    · exact isOver.elim
    · exact goesOn
  · exact Or.inr

theorem UseWay.goes {existing : Capability}
    (way : UseWay answers requirement timeout existing start exchanges ended finish) :
    (useExisting requirement timeout existing).run.Goes answers start exchanges ended finish := by
  rw [run_useExisting]
  cases way with
  | invalid invalid => simp [invalid]
  | settled valid settled given => simp [valid, settled, given]
  | awaited valid unsettled waited given =>
      simp only [valid, unsettled, Bool.false_eq_true, if_false]
      exact .call waited (given ▸ .still _ _)
  | givenUp valid unsettled waited =>
      simp only [valid, unsettled, Bool.false_eq_true, if_false]
      exact .call waited (.still _ _)
  | broken valid unsettled waited =>
      simp only [valid, unsettled, Bool.false_eq_true, if_false]
      exact .call waited (.still _ _)

theorem useWay_iff {existing : Capability} (isOver : IsOver ended) :
    UseWay answers requirement timeout existing start exchanges ended finish ↔
      (useExisting requirement timeout existing).run.Goes answers start exchanges ended finish := by
  constructor
  · exact UseWay.goes
  · intro goes
    rw [run_useExisting] at goes
    cases valid : existing.validate requirement with
    | error error =>
        simp only [valid, Program.goes_done_iff] at goes
        obtain ⟨rfl, rfl, rfl⟩ := goes
        exact .invalid valid
    | ok _ =>
        cases terminal : existing.phase.isTerminal with
        | true =>
            simp only [valid, terminal, if_true, Program.goes_done_iff] at goes
            obtain ⟨rfl, rfl, rfl⟩ := goes
            exact .settled valid terminal rfl
        | false =>
            simp only [valid, terminal, Bool.false_eq_true, if_false] at goes
            obtain ⟨answer, middle, rest, rfl, waited, goesOn⟩ := isOver.goes_call_iff.mp goes
            cases answer with
            | met ready =>
                obtain ⟨rfl, rfl, rfl⟩ := Program.goes_done_iff.mp goesOn
                exact .awaited valid terminal waited rfl
            | failed error =>
                obtain ⟨rfl, rfl, rfl⟩ := Program.goes_done_iff.mp goesOn
                exact .givenUp valid terminal waited
            | beyondClock =>
                obtain ⟨rfl, rfl, rfl⟩ := Program.goes_abort_iff.mp goesOn
                exact .broken valid terminal waited

theorem AwaitWay.goes {target : Capability}
    (way : AwaitWay answers timeout lookup target start exchanges ended finish) :
    (awaitCreated lookup timeout target).run.Goes answers start exchanges ended finish := by
  rw [run_awaitCreated]
  cases way with
  | givenUp waited => exact .call waited (.still _ _)
  | broken waited => exact .call waited (.still _ _)
  | failed waited failed given => exact .call waited (by simp [failed, given])
  | unread waited notFailed answered unread =>
      refine .call waited ?_
      simp only [if_neg notFailed]
      exact .call answered (by simp [unread])
  | missed waited notFailed answered missed =>
      refine .call waited ?_
      simp only [if_neg notFailed]
      exact .call answered (by simp [missed])
  | resolved waited notFailed answered found given =>
      refine .call waited ?_
      simp only [if_neg notFailed]
      exact .call answered (by simp [found, given])

theorem awaitWay_iff {target : Capability} (isOver : IsOver ended) :
    AwaitWay answers timeout lookup target start exchanges ended finish ↔
      (awaitCreated lookup timeout target).run.Goes answers start exchanges ended finish := by
  constructor
  · exact AwaitWay.goes
  · intro goes
    rw [run_awaitCreated] at goes
    obtain ⟨answer, middle, rest, rfl, waited, goesOn⟩ := isOver.goes_call_iff.mp goes
    cases answer with
    | failed error =>
        obtain ⟨rfl, rfl, rfl⟩ := Program.goes_done_iff.mp goesOn
        exact .givenUp waited
    | beyondClock =>
        obtain ⟨rfl, rfl, rfl⟩ := Program.goes_abort_iff.mp goesOn
        exact .broken waited
    | met ready =>
        by_cases failed : ready.phase = .failed
        · simp only [if_pos failed, Program.goes_done_iff] at goesOn
          obtain ⟨rfl, rfl, rfl⟩ := goesOn
          exact .failed waited failed rfl
        · simp only [if_neg failed] at goesOn
          obtain ⟨answer, after, rest, rfl, answered, looked⟩ := isOver.goes_call_iff.mp goesOn
          cases outcome : lookup.outcome answer with
          | error failure =>
              simp only [outcome, Program.goes_done_iff] at looked
              obtain ⟨rfl, rfl, rfl⟩ := looked
              exact .unread waited failed answered outcome
          | ok found? =>
              cases found? with
              | none =>
                  simp only [outcome, Program.goes_done_iff] at looked
                  obtain ⟨rfl, rfl, rfl⟩ := looked
                  exact .missed waited failed answered outcome
              | some resolved =>
                  simp only [outcome, Program.goes_done_iff] at looked
                  obtain ⟨rfl, rfl, rfl⟩ := looked
                  exact .resolved waited failed answered outcome rfl

theorem CreateWay.goes {built : Capability}
    (way : CreateWay answers requirement timeout lookup built start exchanges ended finish) :
    (createOrAdopt requirement built >>= awaitCreated lookup timeout).run.Goes answers start
      exchanges ended finish := by
  rw [run_createOrAdopt_bind]
  cases way with
  | created created awaits => exact .call created awaits.goes
  | refused refused untaken => exact .call refused (by simp [untaken])
  | unread refused taken read =>
      refine .call refused ?_
      simp only [if_pos taken, run_adopt_bind]
      exact .call read (.still _ _)
  | vanished refused taken read =>
      refine .call refused ?_
      simp only [if_pos taken, run_adopt_bind]
      exact .call read (.still _ _)
  | clashed refused taken read invalid =>
      refine .call refused ?_
      simp only [if_pos taken, run_adopt_bind]
      exact .call read (by simp [invalid])
  | adopted refused taken read valid awaits =>
      refine .call refused ?_
      simp only [if_pos taken, run_adopt_bind]
      refine .call read ?_
      simp only [valid]
      exact awaits.goes

theorem createWay_iff {built : Capability} (isOver : IsOver ended) :
    CreateWay answers requirement timeout lookup built start exchanges ended finish ↔
      (createOrAdopt requirement built >>= awaitCreated lookup timeout).run.Goes answers start
        exchanges ended finish := by
  constructor
  · exact CreateWay.goes
  · intro goes
    rw [run_createOrAdopt_bind] at goes
    obtain ⟨answer, middle, rest, rfl, asked, goesOn⟩ := isOver.goes_call_iff.mp goes
    cases answer with
    | ok written => exact .created asked ((awaitWay_iff isOver).mpr goesOn)
    | error failure =>
        cases taken : failure.saysTaken with
        | false =>
            simp only [taken, Bool.false_eq_true, if_false, Program.goes_done_iff] at goesOn
            obtain ⟨rfl, rfl, rfl⟩ := goesOn
            exact .refused asked taken
        | true =>
            simp only [if_pos taken, run_adopt_bind] at goesOn
            obtain ⟨answer, after, rest, rfl, read, adopting⟩ := isOver.goes_call_iff.mp goesOn
            cases answer with
            | error reason =>
                obtain ⟨rfl, rfl, rfl⟩ := Program.goes_done_iff.mp adopting
                exact .unread asked taken read
            | ok existing? =>
                cases existing? with
                | none =>
                    obtain ⟨rfl, rfl, rfl⟩ := Program.goes_done_iff.mp adopting
                    exact .vanished asked taken read
                | some existing =>
                    cases valid : existing.validate requirement with
                    | error error =>
                        simp only [valid, Program.goes_done_iff] at adopting
                        obtain ⟨rfl, rfl, rfl⟩ := adopting
                        exact .clashed asked taken read valid
                    | ok _ =>
                        simp only [valid] at adopting
                        exact .adopted asked taken read valid ((awaitWay_iff isOver).mpr adopting)

theorem NewWay.goes
    (way : NewWay answers operatorNamespace serial requester requirement timeout lookup start
      exchanges ended finish) :
    (provideNew operatorNamespace serial requester requirement timeout lookup).run.Goes answers
      start exchanges ended finish := by
  rw [run_provideNew]
  cases way with
  | unloaded unloaded => exact .call unloaded (.still _ _)
  | unplaced loaded unplaced => exact .call loaded (by simp [unplaced])
  | placed loaded placed creates =>
      refine .call loaded ?_
      simp only [placed]
      exact creates.goes

theorem newWay_iff (isOver : IsOver ended) :
    NewWay answers operatorNamespace serial requester requirement timeout lookup start exchanges
        ended finish ↔
      (provideNew operatorNamespace serial requester requirement timeout lookup).run.Goes answers
        start exchanges ended finish := by
  constructor
  · exact NewWay.goes
  · intro goes
    rw [run_provideNew] at goes
    obtain ⟨answer, middle, rest, rfl, asked, goesOn⟩ := isOver.goes_call_iff.mp goes
    cases answer with
    | error failure =>
        obtain ⟨rfl, rfl, rfl⟩ := Program.goes_done_iff.mp goesOn
        exact .unloaded asked
    | ok defaults =>
        cases placed : Placement.build requester requirement defaults operatorNamespace serial with
        | error error =>
            simp only [placed, Program.goes_done_iff] at goesOn
            obtain ⟨rfl, rfl, rfl⟩ := goesOn
            exact .unplaced asked placed
        | ok built =>
            simp only [placed] at goesOn
            exact .placed asked placed ((createWay_iff isOver).mpr goesOn)

theorem CallWay.goes (planned : Lookup.plan requester requirement = .ok lookup)
    (way : CallWay answers operatorNamespace serial requester requirement timeout lookup start
      exchanges ended finish) :
    (provide operatorNamespace serial requester requirement timeout).Goes answers start exchanges
      ended finish := by
  rw [provide_eq_call _ _ _ _ _ _ planned]
  cases way with
  | unread answered unread => exact .call answered (by simp [unread])
  | found answered found uses =>
      refine .call answered ?_
      simp only [found]
      exact uses.goes
  | missed answered missed provides =>
      refine .call answered ?_
      simp only [missed]
      exact provides.goes

/-- Once its lookup is planned, a call goes one of its ways. -/
theorem callWay_iff (planned : Lookup.plan requester requirement = .ok lookup)
    (isOver : IsOver ended) :
    CallWay answers operatorNamespace serial requester requirement timeout lookup start exchanges
        ended finish ↔
      (provide operatorNamespace serial requester requirement timeout).Goes answers start exchanges
        ended finish := by
  constructor
  · exact CallWay.goes planned
  · intro goes
    rw [provide_eq_call _ _ _ _ _ _ planned] at goes
    obtain ⟨answer, middle, rest, rfl, answered, goesOn⟩ := isOver.goes_call_iff.mp goes
    cases outcome : lookup.outcome answer with
    | error failure =>
        simp only [outcome, Program.goes_done_iff] at goesOn
        obtain ⟨rfl, rfl, rfl⟩ := goesOn
        exact .unread answered outcome
    | ok found? =>
        simp only [outcome] at goesOn
        cases found? with
        | none => exact .missed answered outcome ((newWay_iff isOver).mpr goesOn)
        | some existing => exact .found answered outcome ((useWay_iff isOver).mpr goesOn)

/-- A call that ends with a result has planned its lookup. -/
theorem callWay_of_result {result : ProvisionResult}
    (goes : (provide operatorNamespace serial requester requirement timeout).Goes answers start
      exchanges (.done (.ok result)) finish) :
    ∃ lookup, Lookup.plan requester requirement = .ok lookup ∧
      CallWay answers operatorNamespace serial requester requirement timeout lookup start exchanges
        (.done (.ok result)) finish := by
  cases planned : Lookup.plan requester requirement with
  | error error =>
      rw [provide, planned] at goes
      cases (Program.goes_done_iff.mp goes).2.1
  | ok lookup => exact ⟨lookup, rfl, (callWay_iff planned (isOver_done _)).mpr goes⟩

/-- A wait that ends with a result was not for a failed capability, and found one afterwards. -/
theorem AwaitWay.exists_resolved {target : Capability} {result : ProvisionResult}
    (way : AwaitWay answers timeout lookup target start exchanges (.done (.ok result)) finish) :
    ∃ ready resolved middle answer,
      answers start (.awaitSettled target.home target.name timeout) (.met ready) middle ∧
      answers middle lookup.request answer finish ∧
      lookup.outcome answer = .ok (some resolved) ∧
      ProvisionResult.ofCapability resolved = .ok result := by
  cases way with
  | failed _ failed given =>
      have successful := (ProvisionResult.ofCapability_eq_ok_iff.mp given).1
      rw [failed] at successful
      cases successful
  | resolved waited _ answered found given => exact ⟨_, _, _, _, waited, answered, found, given⟩

end Runs

end Provision

end Provisioning
