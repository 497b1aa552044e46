import Provisioning.Api.Report
import Provisioning.Api.Resources
import Provisioning.Proofs.Collaborators

/-!
# Failures are reported as they are

A collaborator of provisioning may fail at any call: the store at the first lookup, at the creation, at
the read of what has the place already, or at the last lookup, the source of defaults, and the source of
a wait when it reads, subscribes, or brings the next event.  Whatever comes before, the call ends right
there, with that failure.  Only the refusal of a name that is taken is dealt with, and a wait whose
deadline passes reads the clock once more.  The other way round, a call that ends with an error of a
collaborator has just been told of it.

Main statement: `provide_reports_failures`.
-/

namespace Provisioning

open ClusterObject

/-! ## Failing answers -/

/-- The error of provisioning that stands for an error of a wait. -/
inductive WaitError.ReportedAs : WaitError → ProvisioningError → Prop where
  | timedOut (locator : Locator) (elapsed : Duration) :
      ReportedAs (.timedOut locator elapsed) (.timedOut locator elapsed)
  | subscriptionFailed (locator : Locator) (message : String) :
      ReportedAs (.subscriptionFailed locator message) (.subscriptionFailed locator message)
  | unreadable (locator : Locator) (source : Failure) :
      ReportedAs (.unreadable locator source) (.failed source)

@[simp]
theorem WaitError.reportedAs_iff {error : WaitError} {reported : ProvisioningError} :
    error.ReportedAs reported ↔ reported = .ofWait error := by
  constructor
  · intro reports
    cases reports with
    | timedOut locator elapsed => rfl
    | subscriptionFailed locator message => rfl
    | unreadable locator source => rfl
  · intro isReported
    rw [isReported]
    cases error with
    | timedOut locator elapsed => exact .timedOut locator elapsed
    | subscriptionFailed locator message => exact .subscriptionFailed locator message
    | unreadable locator source => exact .unreadable locator source

/-- The failure that an answer of the store or of the source of defaults is, if it is one. -/
def CapabilityCall.failure? : (request : CapabilityCall) → request.Answer → Option Failure
  | .get .., .error failure => some failure
  | .listIn .., .error failure => some failure
  | .listAll _, .error failure => some failure
  | .create _, .error failure => some failure
  | .loadDefaults, .error failure => some failure
  | _, _ => none

namespace CollaboratorCall

/-- A subscription is known by what it is about.  Nothing else is said about the answers. -/
def Admits : (request : CollaboratorCall) → request.Answer → Prop
  | .watch (.subscribe locator _), .inTime (.ok subscription) => subscription = locator
  | _, _ => True

/-- A call fails, and with which error provisioning has to end. -/
inductive Fails : (request : CollaboratorCall) → request.Answer → ProvisioningError → Prop where
  | ask {request : CapabilityCall} {answer : request.Answer} {failure : Failure}
      (failed : request.failure? answer = some failure) :
      Fails (.ask request) answer (.failed failure)
  | read (locator : Locator) (deadline : Duration) {error : WaitError}
      {reported : ProvisioningError} (reports : error.ReportedAs reported) :
      Fails (.watch (.current locator deadline)) (Timely.inTime (.error error)) reported
  | subscribe (locator : Locator) (deadline : Duration) {error : WaitError}
      {reported : ProvisioningError} (reports : error.ReportedAs reported) :
      Fails (.watch (.subscribe locator deadline)) (Timely.inTime (.error error)) reported
  | event (locator : Locator) (deadline : Duration) {error : WaitError}
      {reported : ProvisioningError} (reports : error.ReportedAs reported) :
      Fails (.watch (.next locator deadline)) (Timely.inTime (some (.error error))) reported
  | ended (locator : Locator) (deadline : Duration) :
      Fails (.watch (.next locator deadline)) (Timely.inTime none)
        (.subscriptionFailed locator "event stream ended")

/-- A name is refused because it is taken: the one failure that is dealt with. -/
inductive FindsTaken : (request : CollaboratorCall) → request.Answer → Capability → Prop where
  | refused (capability : Capability) {response : ErrorResponse} (code : response.code = 409) :
      FindsTaken (.ask (.create capability)) (Except.error (.server (.refused response))) capability

/-- An operation of a wait on a locator is not answered before the deadline. -/
inductive IsLate : (request : CollaboratorCall) → request.Answer → Locator → Duration → Prop where
  | read (locator : Locator) (deadline : Duration) :
      IsLate (.watch (.current locator deadline)) Timely.late locator deadline
  | subscribe (locator : Locator) (deadline : Duration) :
      IsLate (.watch (.subscribe locator deadline)) Timely.late locator deadline
  | event (locator : Locator) (deadline : Duration) :
      IsLate (.watch (.next locator deadline)) Timely.late locator deadline

/-- A source says of a read only that it failed, and of a subscription only that it failed. -/
def IsCandid : (request : CollaboratorCall) → request.Answer → Prop
  | .watch (.current _ _), .inTime (.error error) =>
      ∃ locator source, error = .unreadable locator source
  | .watch (.subscribe _ _), .inTime (.error error) =>
      ∃ locator message, error = .subscriptionFailed locator message
  | .watch (.next _ _), .inTime (some (.error error)) =>
      ∃ locator message, error = .subscriptionFailed locator message
  | _, _ => True

/-- Whether a call opens a stream or takes an event from it. -/
def isOfStream : CollaboratorCall → Bool
  | .watch (.subscribe ..) => true
  | .watch (.next ..) => true
  | _ => false

/-- A candid source never says that a wait has timed out, and of a lost subscription only where there
is one. -/
theorem Fails.of_candid {request : CollaboratorCall} {answer : request.Answer}
    {error : ProvisioningError} (fails : request.Fails answer error)
    (candid : request.IsCandid answer) :
    error.kind ≠ "TimedOut" ∧ (error.kind = "SubscriptionFailed" → request.isOfStream = true) := by
  cases fails with
  | ask _ => simp [ProvisioningError.kind]
  | read _ _ reports =>
      obtain ⟨locator, source, rfl⟩ := candid
      cases reports
      simp [ProvisioningError.kind]
  | subscribe _ _ reports =>
      obtain ⟨locator, message, rfl⟩ := candid
      cases reports
      simp [ProvisioningError.kind, isOfStream]
  | event _ _ reports =>
      obtain ⟨locator, message, rfl⟩ := candid
      cases reports
      simp [ProvisioningError.kind, isOfStream]
  | ended _ _ => simp [ProvisioningError.kind, isOfStream]

/-- When a wait began, after an answer: the clock is read at its beginning. -/
def begunAfter : (request : CollaboratorCall) → request.Answer → Option Duration →
    Option Duration
  | .watch .now, instant, _ => some instant
  | _, _, begun? => begun?

end CollaboratorCall

/-- Whether an error comes from a collaborator, and not from what was found. -/
def ProvisioningError.isOfCollaborator : ProvisioningError → Bool
  | .timedOut .. => true
  | .subscriptionFailed .. => true
  | .failed _ => true
  | _ => false

private theorem ProvisioningError.isOfCollaborator_of_kind {error : ProvisioningError}
    (kind : error.kind = "TimedOut" ∨ error.kind = "SubscriptionFailed") :
    error.isOfCollaborator = true := by
  cases error <;> simp [ProvisioningError.kind, isOfCollaborator] at kind ⊢

/-- A call of provisioning to its collaborators and its answer. -/
abbrev CollaboratorExchange := Program.Exchange CollaboratorCall CollaboratorCall.Answer

/-- A program of provisioning in terms of its collaborators. -/
abbrev DetailedAttempt := CollaboratorProgram (Except ProvisioningError ProvisionResult)

namespace DetailedAttempt

open CollaboratorCall

/-- What a program goes on with after an answer: with nothing, if it is told of a failure. -/
structure HeedsAnswer (timeout : Duration) (begun? : Option Duration) (request : CollaboratorCall)
    (answer : request.Answer) (rest : DetailedAttempt) : Prop where
  fails : ∀ error, request.Fails answer error →
    (∀ capability, ¬ request.FindsTaken answer capability) → rest = .done (.error error)
  adopts : ∀ capability, request.FindsTaken answer capability →
    ∃ next, rest = .call (.ask (.get capability.home capability.name)) next
  expires : ∀ locator deadline, request.IsLate answer locator deadline →
    ∃ begun, begun? = some begun ∧ deadline = begun + timeout ∧
      rest = .call (.watch .now) fun instant => .done (.error (.timedOut locator (instant - begun)))

/-- A program goes on with nothing wherever it is told of a failure, and ends with an error of a
collaborator nowhere else. -/
def Heeds (timeout : Duration) : DetailedAttempt → Option Duration → Prop
  | .done outcome, _ => ∀ error, outcome = .error error → error.isOfCollaborator = false
  | .abort _, _ => True
  | .call request next, begun? => ∀ answer, request.Admits answer →
      HeedsAnswer timeout begun? request answer (next answer) ∧
        ((∀ error, request.Fails answer error → ∃ capability, request.FindsTaken answer capability) →
          (∀ locator deadline, ¬ request.IsLate answer locator deadline) →
          Heeds timeout (next answer) (request.begunAfter answer begun?))

section Heeds

variable {timeout : Duration} {begun? : Option Duration}

private theorem heeds_error {error : ProvisioningError} (own : error.isOfCollaborator = false) :
    Heeds timeout (.done (.error error)) begun? := by
  intro other isError
  cases isError
  exact own

private theorem heeds_ofCapability (capability : Capability) :
    Heeds timeout (.done (ProvisionResult.ofCapability capability)) begun? := by
  intro error isError
  unfold ProvisionResult.ofCapability ProvisionResult.ofServer at isError
  grind [ProvisioningError.isOfCollaborator]

/-- A call that reads ends the program if it fails, and else the program goes on. -/
theorem heeds_ask {request : CapabilityCall} (reading : request.isCreation = false)
    {next : request.Answer → DetailedAttempt}
    (failed : ∀ answer failure, request.failure? answer = some failure →
      next answer = .done (.error (.failed failure)))
    (goesOn : ∀ answer, request.failure? answer = none → Heeds timeout (next answer) begun?) :
    Heeds timeout (.call (.ask request) next) begun? := by
  intro answer _
  have untaken : ∀ capability, ¬ FindsTaken (.ask request) answer capability := by
    intro capability taken
    cases taken
    cases reading
  refine ⟨⟨?_, ?_, ?_⟩, ?_⟩
  · intro error fails _
    cases fails with
    | ask isFailure => exact failed answer _ isFailure
  · intro capability taken
    exact absurd taken (untaken capability)
  · intro locator deadline late
    cases late
  · intro unfailing _
    cases isFailure : request.failure? answer with
    | none => exact goesOn answer isFailure
    | some failure =>
        obtain ⟨capability, taken⟩ := unfailing _ (.ask isFailure)
        exact absurd taken (untaken capability)

private theorem heeds_create {capability : Capability} {next : Except Failure Capability → DetailedAttempt}
    (made : ∀ written, Heeds timeout (next (.ok written)) begun?)
    (refused : ∀ failure : Failure, ¬ failure.saysTaken = true →
      next (.error failure) = .done (.error (.failed failure)))
    (taken : ∀ failure : Failure, failure.saysTaken = true →
      Heeds timeout (next (.error failure)) begun? ∧
        ∃ rest, next (.error failure) = .call (.ask (.get capability.home capability.name)) rest) :
    Heeds timeout (.call (.ask (.create capability)) next) begun? := by
  intro answer _
  refine ⟨⟨?_, ?_, ?_⟩, ?_⟩
  · intro error fails untaken
    cases fails with
    | @ask _ _ failure isFailure =>
        cases answer with
        | ok written => cases isFailure
        | error other =>
            cases isFailure
            refine refused failure fun saysTaken => ?_
            obtain ⟨response, rfl, code⟩ := Failure.saysTaken_iff.mp saysTaken
            exact untaken capability (.refused capability code)
  · intro other found
    cases found with
    | refused _ code => exact (taken _ (Failure.saysTaken_iff.mpr ⟨_, rfl, code⟩)).2
  · intro locator deadline late
    cases late
  · intro unfailing _
    cases answer with
    | ok written => exact made written
    | error failure =>
        obtain ⟨_, found⟩ := unfailing (.failed failure) (.ask rfl)
        cases found with
        | refused _ code => exact (taken _ (Failure.saysTaken_iff.mpr ⟨_, rfl, code⟩)).1

/-- An operation of a wait that fails ends the program, as does the deadline. -/
theorem heeds_watch {operation : WatchCall} {begun : Duration}
    {next : operation.Answer → DetailedAttempt} (bounded : operation ≠ .now)
    (failed : ∀ answer error, Fails (.watch operation) answer error →
      next answer = .done (.error error))
    (expired : ∀ answer locator deadline, IsLate (.watch operation) answer locator deadline →
      deadline = begun + timeout ∧ next answer =
        .call (.watch .now) fun instant => .done (.error (.timedOut locator (instant - begun))))
    (goesOn : ∀ answer, Admits (.watch operation) answer →
      (∀ error, ¬ Fails (.watch operation) answer error) →
      (∀ locator deadline, ¬ IsLate (.watch operation) answer locator deadline) →
      Heeds timeout (next answer) (some begun)) :
    Heeds timeout (.call (.watch operation) next) (some begun) := by
  intro answer admitted
  have untaken : ∀ capability, ¬ FindsTaken (.watch operation) answer capability := by
    intro capability taken
    cases taken
  refine ⟨⟨?_, ?_, ?_⟩, ?_⟩
  · intro error fails _
    exact failed answer error fails
  · intro capability taken
    exact absurd taken (untaken capability)
  · intro locator deadline late
    obtain ⟨bound, isRest⟩ := expired answer locator deadline late
    exact ⟨begun, rfl, bound, isRest⟩
  · intro unfailing inTime
    have after : begunAfter (.watch operation) answer (some begun) = some begun := by
      cases operation with
      | now => exact absurd rfl bounded
      | current locator deadline => rfl
      | subscribe locator deadline => rfl
      | next subscription deadline => rfl
    rw [after]
    refine goesOn answer admitted (fun error fails => ?_) inTime
    obtain ⟨capability, taken⟩ := unfailing error fails
    exact untaken capability taken

private theorem heeds_now {next : Duration → DetailedAttempt}
    (goesOn : ∀ instant, Heeds timeout (next instant) (some instant)) :
    Heeds timeout (.call (.watch .now) next) begun? := by
  intro instant _
  refine ⟨⟨?_, ?_, ?_⟩, fun _ _ => goesOn instant⟩
  · intro error fails
    cases fails
  · intro capability taken
    cases taken
  · intro locator deadline late
    cases late

/-- How a program goes on after a wait: an error of the wait ends it. -/
structure HeedsEnd (timeout : Duration)
    (next : Option (Wait.End Capability) → DetailedAttempt) : Prop where
  met : ∀ object begun?, Heeds timeout (next (some (.met object))) begun?
  failed : ∀ error, next (some (.failed error)) = .done (.error (.ofWait error))
  beyondClock : ∀ begun?, Heeds timeout (next (some .beyondClock)) begun?
  cutShort : ∀ begun?, Heeds timeout (next none) begun?

section Waits

variable {locator : Locator} {begun deadline : Duration}
  {next : Option (Wait.End Capability) → DetailedAttempt}

private theorem outOfTime_eq (heedsEnd : HeedsEnd timeout next) :
    Wait.outOfTime locator begun next =
      .call (.watch .now) fun instant => .done (.error (.timedOut locator (instant - begun))) := by
  refine congrArg (Program.call _) (funext fun instant => ?_)
  exact heedsEnd.failed _

private theorem heeds_listen (heedsEnd : HeedsEnd timeout next) (bound : deadline = begun + timeout)
    (events : Nat) :
    Heeds timeout
      ((Wait.watching (Wait.listen watchCalls (fun capability => pure capability.phase.isTerminal)
        locator begun deadline locator events)).bind next) (some begun) := by
  induction events with
  | zero => exact heedsEnd.cutShort _
  | succ events inductionHypothesis =>
      rw [Wait.watching_listen_succ_bind]
      apply heeds_watch
      · nofun
      · intro answer error fails
        cases fails with
        | event _ _ reports =>
            rw [WaitError.reportedAs_iff.mp reports]
            exact heedsEnd.failed _
        | ended _ _ => exact heedsEnd.failed _
      · intro answer late _ isLate
        cases isLate with
        | event _ _ => exact ⟨bound, outOfTime_eq heedsEnd⟩
      · intro answer _ unfailing inTime
        match answer with
        | .late => exact absurd (.event _ _) (inTime _ _)
        | .inTime none => exact absurd (.ended _ _) (unfailing _)
        | .inTime (some (.error error)) =>
            exact absurd (.event _ _ (WaitError.reportedAs_iff.mpr rfl)) (unfailing _)
        | .inTime (some (.ok event)) =>
            dsimp only
            by_cases settled : event.object.phase.isTerminal = true
            · rw [if_pos settled]
              exact heedsEnd.met _ _
            -- The event is passed over, and fewer are left to look at.
            · rw [if_neg settled]
              exact inductionHypothesis

private theorem heeds_wait (heedsEnd : HeedsEnd timeout next) (events : Nat) :
    Heeds timeout ((Wait.watching (settlementWait locator timeout events)).bind next) begun? := by
  rw [Wait.watching_settlementWait_bind]
  refine heeds_now fun begun => ?_
  cases reach : Wait.deadline? begun timeout with
  | none => exact heedsEnd.beyondClock _
  | some deadline =>
      have bound : deadline = begun + timeout := Wait.eq_of_deadline? reach
      dsimp only
      apply heeds_watch
      · nofun
      · intro answer error fails
        cases fails with
        | read _ _ reports =>
            rw [WaitError.reportedAs_iff.mp reports]
            exact heedsEnd.failed _
      · intro answer late _ isLate
        cases isLate with
        | read _ _ => exact ⟨bound, outOfTime_eq heedsEnd⟩
      · intro answer _ unfailing inTime
        match answer with
        | .late => exact absurd (.read _ _) (inTime _ _)
        | .inTime (.error error) =>
            exact absurd (.read _ _ (WaitError.reportedAs_iff.mpr rfl)) (unfailing _)
        | .inTime (.ok objects) =>
            dsimp only
            cases objects.find? (·.phase.isTerminal) with
            | some object => exact heedsEnd.met _ _
            | none =>
                apply heeds_watch
                · nofun
                · intro answer error fails
                  cases fails with
                  | subscribe _ _ reports =>
                      rw [WaitError.reportedAs_iff.mp reports]
                      exact heedsEnd.failed _
                · intro answer late _ isLate
                  cases isLate with
                  | subscribe _ _ => exact ⟨bound, outOfTime_eq heedsEnd⟩
                · intro answer admitted unfailing inTime
                  match answer with
                  | .late => exact absurd (.subscribe _ _) (inTime _ _)
                  | .inTime (.error error) =>
                      exact absurd (.subscribe _ _ (WaitError.reportedAs_iff.mpr rfl))
                        (unfailing _)
                  | .inTime (.ok subscription) =>
                      have isLocator : subscription = locator := admitted
                      rw [isLocator]
                      exact heeds_listen heedsEnd bound events

end Waits

/-! ## Provisioning -/

section Provide

open Provision

variable {requirement : Requirement} {lookup : Lookup} {events : Nat}

private theorem failure?_lookup_eq_some_iff {answer : lookup.request.Answer} {failure : Failure} :
    lookup.request.failure? answer = some failure ↔ lookup.outcome answer = .error failure := by
  cases lookup with
  | byName namespaceName name =>
      cases answer <;> simp [Lookup.request, Lookup.outcome, CapabilityCall.failure?]
  | byLabels namespaceName? labels =>
      cases namespaceName? <;> cases answer <;>
        simp [Lookup.request, Lookup.outcome, CapabilityCall.failure?, Except.map]

private theorem heeds_asks
    {next : Option Capability → CapabilityProgram (Except ProvisioningError ProvisionResult)}
    (goesOn : ∀ found?, Heeds timeout (inDetail events (next found?)) begun?) :
    Heeds timeout (inDetail events (asks lookup next)) begun? := by
  rw [asks, inDetail_lookup]
  apply heeds_ask
  · cases lookup with
    | byName namespaceName name => rfl
    | byLabels namespaceName? labels =>
        cases namespaceName? with
        | none => rfl
        | some namespaceName => rfl
  · intro answer failure isFailure
    rw [failure?_lookup_eq_some_iff.mp isFailure]
    rfl
  · intro answer unfailing
    cases outcome : lookup.outcome answer with
    | ok found? => exact goesOn found?
    | error failure =>
        rw [failure?_lookup_eq_some_iff.mpr outcome] at unfailing
        cases unfailing

private theorem heeds_settled {target : Capability}
    {next : Capability → CapabilityProgram (Except ProvisioningError ProvisionResult)}
    (goesOn : ∀ ready begun?, Heeds timeout (inDetail events (next ready)) begun?) :
    Heeds timeout (inDetail events (.call (.awaitSettled target.home target.name timeout) fun
      | .met ready => next ready
      | .failed error => .done (.error (.ofWait error))
      | .beyondClock => .abort Wait.beyondClockMessage)) begun? := by
  rw [inDetail_awaitSettled]
  refine heeds_wait ⟨goesOn, fun _ => rfl, fun _ => ?_, fun _ => ?_⟩ events
  · exact trivial
  · exact trivial

private theorem own_of_validate {capability : Capability} {error : ProvisioningError}
    (invalid : capability.validate requirement = .error error) :
    error.isOfCollaborator = false := by
  simp only [Capability.validate] at invalid
  grind [ProvisioningError.isOfCollaborator]

private theorem own_of_specifiedTarget {requester : Requester} {error : ProvisioningError}
    (missing : Lookup.specifiedTarget requester requirement = .error error) :
    error.isOfCollaborator = false := by
  unfold Lookup.specifiedTarget at missing
  grind [ProvisioningError.isOfCollaborator]

private theorem own_of_plan {requester : Requester} {error : ProvisioningError}
    (unplanned : Lookup.plan requester requirement = .error error) :
    error.isOfCollaborator = false := by
  unfold Lookup.plan at unplanned
  cases scope : requirement.effectiveScope with
  | dedicated => simp [scope] at unplanned
  | specified =>
      simp only [scope] at unplanned
      cases target : Lookup.specifiedTarget requester requirement with
      | error other =>
          rw [target] at unplanned
          cases unplanned
          exact own_of_specifiedTarget target
      | ok place =>
          rw [target] at unplanned
          cases unplanned
  | labeled =>
      simp only [scope] at unplanned
      split at unplanned
      · cases unplanned
        rfl
      · cases unplanned
  | namespaced => simp [scope] at unplanned
  | cluster => simp [scope] at unplanned

private theorem own_of_build {operatorNamespace : String} {serial : Serial} {requester : Requester}
    {defaults : Defaults} {error : ProvisioningError}
    (unbuilt : Placement.build requester requirement defaults operatorNamespace serial =
      .error error) : error.isOfCollaborator = false := by
  unfold Placement.build at unbuilt
  cases placed : Placement.place requester requirement defaults operatorNamespace serial with
  | ok place =>
      rw [placed] at unbuilt
      cases unbuilt
  | error other =>
      rw [placed] at unbuilt
      cases unbuilt
      unfold Placement.place at placed
      cases scope : requirement.effectiveScope with
      | specified =>
          simp only [scope] at placed
          exact own_of_specifiedTarget placed
      | dedicated => simp [scope] at placed
      | labeled => simp [scope] at placed
      | namespaced => simp [scope] at placed
      | cluster => simp [scope] at placed

private theorem heeds_useExisting (found : Capability) :
    Heeds timeout (inDetail events (useExisting requirement timeout found).run) begun? := by
  rw [run_useExisting]
  cases valid : found.validate requirement with
  | error error => exact heeds_error (own_of_validate valid)
  | ok _ =>
      by_cases terminal : found.phase.isTerminal = true
      · simp only [if_pos terminal]
        exact heeds_ofCapability found
      · simp only [if_neg terminal]
        exact heeds_settled fun ready _ => heeds_ofCapability ready

private theorem heeds_awaitCreated (target : Capability) :
    Heeds timeout (inDetail events (awaitCreated lookup timeout target).run) begun? := by
  rw [run_awaitCreated_asks]
  refine heeds_settled fun ready _ => ?_
  by_cases failed : ready.phase = .failed
  · simp only [if_pos failed]
    exact heeds_ofCapability ready
  · simp only [if_neg failed]
    refine heeds_asks fun found? => ?_
    cases found? with
    | some resolved => exact heeds_ofCapability resolved
    | none => exact heeds_error rfl

private theorem heeds_adopt (built : Capability) :
    Heeds timeout
      (inDetail events (adopt requirement built >>= awaitCreated lookup timeout).run) begun? := by
  rw [run_adopt_bind, inDetail_call (.get built.home built.name) nofun]
  apply heeds_ask rfl
  · intro answer failure isFailure
    cases answer with
    | ok found? => cases isFailure
    | error other =>
        cases isFailure
        rfl
  · intro answer unfailing
    match answer with
    | .error failure => cases unfailing
    | .ok none => exact heeds_error rfl
    | .ok (some existing) =>
        cases valid : existing.validate requirement with
        | error error =>
            simp only [valid]
            exact heeds_error (own_of_validate valid)
        | ok _ =>
            simp only [valid]
            exact heeds_awaitCreated existing

private theorem heeds_createOrAdopt (built : Capability) :
    Heeds timeout
      (inDetail events (createOrAdopt requirement built >>= awaitCreated lookup timeout).run)
      begun? := by
  rw [run_createOrAdopt_bind, inDetail_call (.create built) nofun]
  apply heeds_create
  · intro written
    exact heeds_awaitCreated built
  · intro failure untaken
    simp only [if_neg untaken]
    rfl
  · intro failure taken
    simp only [if_pos taken]
    refine ⟨heeds_adopt built, ?_⟩
    rw [run_adopt_bind, inDetail_call (.get built.home built.name) nofun]
    exact ⟨_, rfl⟩

theorem heeds_provide (operatorNamespace : String) (serial : Serial) (requester : Requester) :
    Heeds timeout
      (inDetail events (provide operatorNamespace serial requester requirement timeout)) none := by
  cases planned : Lookup.plan requester requirement with
  | error error =>
      rw [provide, planned]
      exact heeds_error (own_of_plan planned)
  | ok lookup =>
      rw [provide_eq_asks requirement timeout planned]
      refine heeds_asks fun found? => ?_
      cases found? with
      | some found => exact heeds_useExisting found
      | none =>
          simp only [run_provideNew]
          rw [inDetail_call .loadDefaults fun _ _ _ isWait => by cases isWait]
          apply heeds_ask rfl
          · intro answer failure isFailure
            cases answer with
            | ok defaults => cases isFailure
            | error other =>
                cases isFailure
                rfl
          · intro answer unfailing
            cases answer with
            | error failure => cases unfailing
            | ok defaults =>
                cases built : Placement.build requester requirement defaults operatorNamespace
                    serial with
                | error error =>
                    simp only [built]
                    exact heeds_error (own_of_build built)
                | ok capability =>
                    simp only [built]
                    exact heeds_createOrAdopt capability

end Provide

end Heeds

/-! ## Runs -/

/-- A program makes some calls, with any answers at all, and the rest of it is left. -/
def Goes (program : DetailedAttempt) (exchanges : List CollaboratorExchange)
    (left : DetailedAttempt) : Prop :=
  Program.Goes (fun (_ : Unit) request answer _ => request.Admits answer) program () exchanges left ()

section Runs

variable {timeout : Duration} {begun? : Option Duration} {program left : DetailedAttempt}
  {exchanges front back : List CollaboratorExchange} {request : CollaboratorCall}
  {answer : request.Answer}

@[simp]
theorem goes_done_iff {outcome : Except ProvisioningError ProvisionResult} :
    Goes (.done outcome) exchanges left ↔ exchanges = [] ∧ left = .done outcome := by
  rw [Goes, Program.goes_done_iff]
  simp only [and_true]

theorem goes_call_iff {next : request.Answer → DetailedAttempt} :
    Goes (.call request next) exchanges left ↔
      (exchanges = [] ∧ left = .call request next) ∨
        ∃ answer rest, exchanges = ⟨request, answer⟩ :: rest ∧ request.Admits answer ∧
          Goes (next answer) rest left := by
  rw [Goes, Program.goes_call_iff]
  constructor
  · intro goes
    rcases goes with ⟨nothing, isLeft, _⟩ | ⟨answer, _, rest, isMade, admitted, goes⟩
    · exact Or.inl ⟨nothing, isLeft⟩
    · exact Or.inr ⟨answer, rest, isMade, admitted, goes⟩
  · intro goes
    rcases goes with ⟨nothing, isLeft⟩ | ⟨answer, rest, isMade, admitted, goes⟩
    · exact Or.inl ⟨nothing, isLeft, rfl⟩
    · exact Or.inr ⟨answer, (), rest, isMade, admitted, goes⟩

private theorem goes_cons_iff {exchange : CollaboratorExchange} :
    Goes program (exchange :: exchanges) left ↔
      ∃ next, program = .call exchange.request next ∧ exchange.request.Admits exchange.answer ∧
        Goes (next exchange.answer) exchanges left := by
  constructor
  · intro goes
    cases goes with
    | call admitted rest => exact ⟨_, rfl, admitted, rest⟩
  · intro goes
    obtain ⟨_, rfl, admitted, rest⟩ := goes
    exact .call admitted rest

/-- What comes of an answer: a failure ends the program, a name that is taken makes it read what has
the name, and behind a deadline it reads the clock and ends. -/
structure Settles (timeout : Duration) (request : CollaboratorCall) (answer : request.Answer)
    (began : Duration → Prop) (back : List CollaboratorExchange) (left : DetailedAttempt) :
    Prop where
  fails : ∀ error, request.Fails answer error →
    (∀ capability, ¬ request.FindsTaken answer capability) →
    back = [] ∧ left = .done (.error error)
  adopts : ∀ capability, request.FindsTaken answer capability →
    (back = [] ∧ ∃ next, left = .call (.ask (.get capability.home capability.name)) next) ∨
      ∃ told rest, back = ⟨.ask (.get capability.home capability.name), told⟩ :: rest
  expires : ∀ locator deadline, request.IsLate answer locator deadline →
    ∃ begun, began begun ∧ deadline = begun + timeout ∧
      ((back = [] ∧ ∃ next, left = .call (.watch .now) next) ∨
        ∃ instant, back = [⟨.watch .now, instant⟩] ∧
          left = .done (.error (.timedOut locator (instant - begun))))

theorem HeedsAnswer.settles {rest : DetailedAttempt}
    (heeds : HeedsAnswer timeout begun? request answer rest) (goes : Goes rest back left) :
    Settles timeout request answer (fun begun => begun? = some begun) back left := by
  refine ⟨?_, ?_, ?_⟩
  · intro error fails untaken
    rw [heeds.fails error fails untaken] at goes
    exact goes_done_iff.mp goes
  · intro capability taken
    obtain ⟨next, isRest⟩ := heeds.adopts capability taken
    rw [isRest, goes_call_iff] at goes
    rcases goes with ⟨nothing, isLeft⟩ | ⟨told, more, isMade, _, _⟩
    · exact Or.inl ⟨nothing, next, isLeft⟩
    · exact Or.inr ⟨told, more, isMade⟩
  · intro locator deadline late
    obtain ⟨begun, isBegun, bound, isRest⟩ := heeds.expires locator deadline late
    refine ⟨begun, isBegun, bound, ?_⟩
    rw [isRest, goes_call_iff] at goes
    rcases goes with ⟨nothing, isLeft⟩ | ⟨instant, more, isMade, _, ends⟩
    · exact Or.inl ⟨nothing, _, isLeft⟩
    · obtain ⟨noMore, isLeft⟩ := goes_done_iff.mp ends
      exact Or.inr ⟨instant, by rw [isMade, noMore], isLeft⟩

/-- Nothing comes of the time on the clock. -/
theorem settles_now {instant : Duration} {began : Duration → Prop} :
    Settles timeout (.watch .now) instant began back left := by
  refine ⟨?_, ?_, ?_⟩
  · intro error fails
    cases fails
  · intro capability taken
    cases taken
  · intro locator deadline late
    cases late

theorem Settles.mono {began more : Duration → Prop} (implied : ∀ begun, began begun → more begun)
    (settles : Settles timeout request answer began back left) :
    Settles timeout request answer more back left where
  fails := settles.fails
  adopts := settles.adopts
  expires locator deadline late := by
    obtain ⟨begun, isBegun, rest⟩ := settles.expires locator deadline late
    exact ⟨begun, implied begun isBegun, rest⟩

/-- Whether a program is told by an answer to go no further. -/
def StopsAt (request : CollaboratorCall) (answer : request.Answer) : Prop :=
  (∃ error, request.Fails answer error ∧ ∀ capability, ¬ request.FindsTaken answer capability) ∨
    ∃ locator deadline, request.IsLate answer locator deadline

private theorem HeedsAnswer.ends_of_stopsAt {rest : DetailedAttempt}
    (heeds : HeedsAnswer timeout begun? request answer rest) (goes : Goes rest back left)
    (stops : StopsAt request answer) :
    back = [] ∨ ∃ instant, back = [⟨.watch .now, instant⟩] := by
  have settles := heeds.settles goes
  rcases stops with ⟨error, fails, untaken⟩ | ⟨locator, deadline, late⟩
  · exact Or.inl (settles.fails error fails untaken).1
  · obtain ⟨_, _, _, ends⟩ := settles.expires locator deadline late
    rcases ends with ⟨nothing, _⟩ | ⟨instant, isBack, _⟩
    · exact Or.inl nothing
    · exact Or.inr ⟨instant, isBack⟩

theorem Heeds.rest {next : request.Answer → DetailedAttempt}
    (heeds : Heeds timeout (.call request next) begun?) (admitted : request.Admits answer)
    (goesOn : ¬ StopsAt request answer) :
    Heeds timeout (next answer) (request.begunAfter answer begun?) := by
  refine (heeds answer admitted).2 (fun error fails => ?_) (fun locator deadline late => ?_)
  · by_contra untaken
    exact goesOn (Or.inl ⟨error, fails, fun capability taken => untaken ⟨capability, taken⟩⟩)
  · exact goesOn (Or.inr ⟨locator, deadline, late⟩)

private theorem began_cons {first : CollaboratorCall} {told : first.Answer} {begun : Duration}
    (began : first.begunAfter told begun? = some begun ∨ ⟨.watch .now, begun⟩ ∈ front) :
    begun? = some begun ∨
      (⟨.watch .now, begun⟩ : CollaboratorExchange) ∈ ⟨first, told⟩ :: front := by
  rcases began with after | member
  · match first, told, after with
    | .watch .now, instant, after =>
        cases after
        exact Or.inr List.mem_cons_self
    | .ask _, _, after => exact Or.inl after
    | .watch (.current _ _), _, after => exact Or.inl after
    | .watch (.subscribe _ _), _, after => exact Or.inl after
    | .watch (.next _ _), _, after => exact Or.inl after
  · exact Or.inr (List.mem_cons_of_mem _ member)

/-- In a run of a program that heeds its answers each of them settles what follows it. -/
theorem Heeds.settles (heeds : Heeds timeout program begun?) (goes : Goes program exchanges left)
    (split : exchanges = front ++ ⟨request, answer⟩ :: back) :
    Settles timeout request answer
      (fun begun => begun? = some begun ∨ ⟨.watch .now, begun⟩ ∈ front) back left := by
  induction exchanges generalizing program begun? front with
  | nil => cases front <;> cases split
  | cons exchange rest inductionHypothesis =>
      obtain ⟨next, rfl, admitted, goesOn⟩ := goes_cons_iff.mp goes
      cases front with
      | nil =>
          cases split
          exact ((heeds answer admitted).1.settles goesOn).mono fun _ => Or.inl
      | cons head front =>
          obtain ⟨rfl, isRest⟩ := List.cons.inj split
          by_cases stops : StopsAt exchange.request exchange.answer
          · have ends := (heeds exchange.answer admitted).1.ends_of_stopsAt goesOn stops
            rcases ends with nothing | ⟨instant, isRead⟩
            · rw [nothing] at isRest
              cases front <;> cases isRest
            · rw [isRead] at isRest
              cases front with
              | nil =>
                  cases isRest
                  exact settles_now
              | cons _ front => cases front <;> cases isRest
          · have settles := inductionHypothesis (heeds.rest admitted stops) goesOn isRest
            exact settles.mono fun _ => began_cons

/-- A program that ends with an error of a collaborator has just been told of it. -/
theorem Heeds.blames (heeds : Heeds timeout program begun?) {error : ProvisioningError}
    (goes : Goes program exchanges (.done (.error error)))
    (ofCollaborator : error.isOfCollaborator = true) :
    (∃ front request answer, exchanges = front ++ [⟨request, answer⟩] ∧
      request.Fails answer error ∧ ∀ capability, ¬ request.FindsTaken answer capability) ∨
    ∃ front request answer locator deadline begun instant,
      exchanges = front ++ [⟨request, answer⟩, ⟨.watch .now, instant⟩] ∧
      request.IsLate answer locator deadline ∧ error = .timedOut locator (instant - begun) := by
  induction exchanges generalizing program begun? with
  | nil =>
      have isProgram : program = .done (.error error) := by
        cases goes
        rfl
      rw [isProgram] at heeds
      have own := heeds error rfl
      rw [own] at ofCollaborator
      cases ofCollaborator
  | cons exchange rest inductionHypothesis =>
      obtain ⟨next, rfl, admitted, goesOn⟩ := goes_cons_iff.mp goes
      have settles := (heeds exchange.answer admitted).1.settles goesOn
      by_cases stops : StopsAt exchange.request exchange.answer
      · rcases stops with ⟨other, fails, untaken⟩ | ⟨locator, deadline, late⟩
        · obtain ⟨nothing, ends⟩ := settles.fails other fails untaken
          cases ends
          exact Or.inl ⟨[], _, _, by rw [nothing]; rfl, fails, untaken⟩
        · obtain ⟨begun, _, _, ends⟩ := settles.expires locator deadline late
          rcases ends with ⟨_, _, impossible⟩ | ⟨instant, isRest, ends⟩
          · cases impossible
          · cases ends
            exact Or.inr ⟨[], _, _, locator, deadline, begun, instant, by rw [isRest]; rfl, late, rfl⟩
      · rcases inductionHypothesis (heeds.rest admitted stops) goesOn with
          ⟨front, request, answer, isRest, fails, untaken⟩ |
          ⟨front, request, answer, locator, deadline, begun, instant, isRest, late, isError⟩
        · exact Or.inl ⟨exchange :: front, request, answer, by rw [isRest]; rfl, fails, untaken⟩
        · exact Or.inr ⟨exchange :: front, request, answer, locator, deadline, begun, instant,
            by rw [isRest]; rfl, late, isError⟩

end Runs

/-! ## What provisioning reports -/

/-- The server, as the source of a wait, is candid: what fails in a read is a read, and what is
delivered instead of an event is that the subscription failed. -/
theorem isCandid_server {get : String → String → Except ServerError (Option Capability)}
    {list : String → Labels → Except ServerError (List Capability)} (locator : Locator)
    (deadline : Duration) :
    IsCandid (.watch (.current locator deadline))
        (Timely.inTime (Api.currentBy (m := Id) get list locator)) ∧
      ∀ (item : Except String (Api.Report Capability))
        (answer : Except WaitError (WatchEvent Capability)),
        Api.Report.delivered? locator item = some answer →
        IsCandid (.watch (.next locator deadline)) (Timely.inTime (some answer)) := by
  refine ⟨?_, fun item answer delivered => ?_⟩
  · have read : Api.currentBy (m := Id) get list locator =
        (Api.locate (m := Id) get list locator).mapError fun error =>
          .unreadable locator (.server error) := rfl
    rw [read]
    cases Api.locate (m := Id) get list locator with
    | ok objects => exact trivial
    | error error => exact ⟨locator, .server error, rfl⟩
  · cases item with
    | error text =>
        cases delivered
        exact ⟨locator, text, rfl⟩
    | ok report =>
        obtain ⟨event, _, rfl⟩ := Option.map_eq_some_iff.mp delivered
        exact trivial

/-- For every run of provisioning, complete or not, whatever its collaborators answer: each failure
settles it, and an error of a collaborator is that of the last answer.  With a source that says of
reads and of subscriptions no more than that they failed, a call times out only where its deadline has
passed, and loses its subscription only where a stream is not opened, breaks or ends. -/
theorem provide_reports_failures (operatorNamespace : String) (serial : Serial)
    (requester : Requester) (requirement : Requirement) (timeout : Duration) (events : Nat)
    {exchanges : List CollaboratorExchange} {left : DetailedAttempt}
    (goes : Goes (inDetail events
      (Provision.provide operatorNamespace serial requester requirement timeout)) exchanges left) :
    (∀ front request answer back, exchanges = front ++ ⟨request, answer⟩ :: back →
      Settles timeout request answer (fun begun => ⟨.watch .now, begun⟩ ∈ front) back left) ∧
    (∀ error, left = .done (.error error) → error.isOfCollaborator = true →
      (∃ front request answer, exchanges = front ++ [⟨request, answer⟩] ∧
        request.Fails answer error ∧ ∀ capability, ¬ request.FindsTaken answer capability) ∨
      ∃ front request answer locator deadline begun instant,
        exchanges = front ++ [⟨request, answer⟩, ⟨.watch .now, instant⟩] ∧
        request.IsLate answer locator deadline ∧ error = .timedOut locator (instant - begun)) ∧
    ((∀ exchange ∈ exchanges, exchange.request.IsCandid exchange.answer) →
      ∀ error, left = .done (.error error) →
      (error.kind = "TimedOut" → ∃ front request answer locator deadline begun instant,
        exchanges = front ++ [⟨request, answer⟩, ⟨.watch .now, instant⟩] ∧
        request.IsLate answer locator deadline ∧ error = .timedOut locator (instant - begun)) ∧
      (error.kind = "SubscriptionFailed" → ∃ front request answer,
        exchanges = front ++ [⟨request, answer⟩] ∧ request.isOfStream = true ∧
        request.Fails answer error)) ∧
    (∀ failure : Failure, (ProvisioningError.failed failure).kind = "Internal" ∧
      (ProvisioningError.failed failure).isRetryable = failure.isRetryable) ∧
    (∀ locator elapsed, (ProvisioningError.timedOut locator elapsed).kind = "TimedOut") ∧
    ∀ locator message,
      (ProvisioningError.subscriptionFailed locator message).kind = "SubscriptionFailed" := by
  have heeds : Heeds timeout (inDetail events
      (Provision.provide operatorNamespace serial requester requirement timeout)) none :=
    heeds_provide operatorNamespace serial requester
  refine ⟨?_, ?_, ?_, fun _ => ⟨rfl, rfl⟩, fun _ _ => rfl, fun _ _ => rfl⟩
  · intro front request answer back split
    exact (heeds.settles goes split).mono fun begun began => began.resolve_left nofun
  · intro error isLeft ofCollaborator
    rw [isLeft] at goes
    exact heeds.blames goes ofCollaborator
  · intro candid error isLeft
    rw [isLeft] at goes
    refine ⟨fun timedOut => ?_, fun lost => ?_⟩
    · have ofCollaborator := ProvisioningError.isOfCollaborator_of_kind (Or.inl timedOut)
      rcases heeds.blames goes ofCollaborator with ⟨front, request, answer, isAll, fails, _⟩ | late
      · have last := candid ⟨request, answer⟩ (by rw [isAll]; simp)
        exact absurd timedOut (fails.of_candid last).1
      · exact late
    · have ofCollaborator := ProvisioningError.isOfCollaborator_of_kind (Or.inr lost)
      rcases heeds.blames goes ofCollaborator with ⟨front, request, answer, isAll, fails, _⟩ |
        ⟨_, _, _, _, _, _, _, _, _, isError⟩
      · have last := candid ⟨request, answer⟩ (by rw [isAll]; simp)
        exact ⟨front, request, answer, isAll, (fails.of_candid last).2 lost, fails⟩
      · rw [isError] at lost
        exact absurd lost (by simp [ProvisioningError.kind])

/-- A database of the requester's own that nobody has settled yet. -/
def ownDatabase : Capability where
  metadata :=
    { name := some (Lookup.dedicatedName ⟨"shop", "retail"⟩ { capability := .dbms })
      namespaceName := some "retail"
      labels := some (Placement.labels { capability := .dbms, scope := some .dedicated }) }
  spec := { capability := .dbms, scope := some .dedicated }

/-- What the collaborators answer to a call that finds its database and waits for it, until the stream
of events ends. -/
private def endedStream : List CollaboratorExchange :=
  let place := key ownDatabase
  let locator : Locator := .named place.namespaceName place.name
  [⟨.ask (.get place.namespaceName place.name), Except.ok (some ownDatabase)⟩,
    ⟨.watch .now, (⟨5⟩ : Duration)⟩,
    ⟨.watch (.current locator ⟨35⟩), Timely.inTime (.ok [])⟩,
    ⟨.watch (.subscribe locator ⟨35⟩), Timely.inTime (.ok locator)⟩,
    ⟨.watch (.next locator ⟨35⟩), Timely.inTime none⟩]

/-- A call whose stream of events ends has lost its subscription, and only that answer is to blame. -/
theorem provide_reports_failures_of_endedStream :
    Goes (inDetail 1 (Provision.provide "ops" 0 ⟨"shop", "retail"⟩
        { capability := .dbms, scope := some .dedicated } ⟨30⟩)) endedStream
      (.done (.error (.subscriptionFailed
        (.named (key ownDatabase).namespaceName (key ownDatabase).name) "event stream ended"))) ∧
    ∃ front request answer, endedStream = front ++ [⟨request, answer⟩] ∧
      request.isOfStream = true := by
  have planned : Lookup.plan ⟨"shop", "retail"⟩ { capability := .dbms, scope := some .dedicated } =
      .ok (.byName (key ownDatabase).namespaceName (key ownDatabase).name) := by
    decide +kernel
  have valid : ownDatabase.validate { capability := .dbms, scope := some .dedicated } = .ok () := by
    decide +kernel
  have unsettled : ¬ ownDatabase.phase.isTerminal = true := by decide
  have goes : Goes (inDetail 1 (Provision.provide "ops" 0 ⟨"shop", "retail"⟩
      { capability := .dbms, scope := some .dedicated } ⟨30⟩)) endedStream
      (.done (.error (.subscriptionFailed
        (.named (key ownDatabase).namespaceName (key ownDatabase).name)
          "event stream ended"))) := by
    rw [Provision.provide_eq_asks _ _ planned, Provision.asks, inDetail_lookup]
    refine goes_cons_iff.mpr ⟨_, rfl, trivial, ?_⟩
    change Goes (inDetail 1 (Provision.useExisting _ ⟨30⟩ ownDatabase).run) _ _
    rw [Provision.run_useExisting, valid]
    simp only [if_neg unsettled]
    rw [inDetail_awaitSettled, Wait.watching_settlementWait_bind]
    refine goes_cons_iff.mpr ⟨_, rfl, trivial, ?_⟩
    refine goes_cons_iff.mpr ⟨_, rfl, trivial, ?_⟩
    refine goes_cons_iff.mpr ⟨_, rfl, rfl, ?_⟩
    dsimp only
    rw [Wait.watching_listen_succ_bind]
    refine goes_cons_iff.mpr ⟨_, rfl, trivial, ?_⟩
    exact goes_done_iff.mpr ⟨rfl, rfl⟩
  have candid : ∀ exchange ∈ endedStream, exchange.request.IsCandid exchange.answer := by
    intro exchange member
    simp only [endedStream, List.mem_cons, List.not_mem_nil, or_false] at member
    rcases member with rfl | rfl | rfl | rfl | rfl <;> exact trivial
  have reports := provide_reports_failures "ops" 0 ⟨"shop", "retail"⟩
    { capability := .dbms, scope := some .dedicated } ⟨30⟩ 1 goes
  obtain ⟨front, request, answer, isAll, ofStream, _⟩ := (reports.2.2.1 candid _ rfl).2 rfl
  exact ⟨goes, front, request, answer, isAll, ofStream⟩

end DetailedAttempt

end Provisioning
