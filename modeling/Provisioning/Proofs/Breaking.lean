import Provisioning.Proofs.Exchanges

/-!
# Where programs break off

A program breaks off after answers that are fatal to it, or never.  Provisioning breaks off where a
wait is given up because its deadline lies beyond the clock, and nowhere else
(`breaksAtWaits_provide`).
-/

namespace Provisioning

/-! ## Fatal answers -/

namespace Program

variable {Call : Type} {Answer : Call → Type} {σ α β : Type}
  {answers : σ → (request : Call) → Answer request → σ → Prop} {start middle finish : σ}
  {exchanges : List (Exchange Call Answer)}

section Breaking

variable (fatal : (request : Call) → Answer request → Prop) (message : String)

/-- A program breaks off, with a message, after the fatal answers and nowhere else. -/
def BreaksOn : Program Call Answer α → Prop
  | .done _ => True
  | .abort _ => False
  | .call request next => ∀ answer,
      (fatal request answer → next answer = .abort message) ∧
        (¬ fatal request answer → BreaksOn (next answer))

end Breaking

variable {fatal : (request : Call) → Answer request → Prop} {message text : String}
  {program remaining : Program Call Answer α}

/-- What remains of a program breaks off after the fatal answers too, unless it broke off
already. -/
theorem BreaksOn.of_goes (breaksOn : program.BreaksOn fatal message)
    (goes : Goes answers program start exchanges remaining finish) :
    remaining = .abort message ∨ remaining.BreaksOn fatal message := by
  induction goes with
  | still => exact Or.inr breaksOn
  | @call request next answer _ _ _ _ _ _ goesOn inductionHypothesis =>
      obtain ⟨broken, unbroken⟩ := breaksOn answer
      by_cases isFatal : fatal request answer
      · rw [broken isFatal] at goesOn
        exact Or.inl (Program.goes_abort_iff.mp goesOn).2.1
      · exact inductionHypothesis (unbroken isFatal)

private theorem BreaksOn.fatal_of_goes (breaksOn : program.BreaksOn fatal message)
    (goes : Goes answers program start exchanges remaining finish)
    (isBroken : remaining = .abort text) :
    text = message ∧ ∃ front request answer next instant,
      exchanges = front ++ [⟨request, answer⟩] ∧
        Goes answers program start front (.call request next) instant ∧
        answers instant request answer finish ∧ fatal request answer := by
  induction goes with
  | still =>
      rw [isBroken] at breaksOn
      exact breaksOn.elim
  | @call request next answer before _ _ _ _ given goesOn inductionHypothesis =>
      obtain ⟨broken, unbroken⟩ := breaksOn answer
      by_cases isFatal : fatal request answer
      · rw [broken isFatal] at goesOn
        obtain ⟨rfl, rfl, rfl⟩ := Program.goes_abort_iff.mp goesOn
        cases isBroken
        exact ⟨rfl, [], request, answer, next, before, rfl, .still _ _, given, isFatal⟩
      · obtain ⟨isMessage, front, last, lastAnswer, goesOn, instant, isLast, reached, lastGiven,
          lastFatal⟩ := inductionHypothesis (unbroken isFatal) isBroken
        exact ⟨isMessage, ⟨request, answer⟩ :: front, last, lastAnswer, goesOn, instant,
          congrArg (_ :: ·) isLast, .call given reached, lastGiven, lastFatal⟩

/-- A run breaks off exactly by coming to a call and getting a fatal answer there. -/
theorem BreaksOn.goes_abort_iff (breaksOn : program.BreaksOn fatal message) :
    Goes answers program start exchanges (.abort text) finish ↔
      text = message ∧ ∃ front request answer next instant,
        exchanges = front ++ [⟨request, answer⟩] ∧
          Goes answers program start front (.call request next) instant ∧
          answers instant request answer finish ∧ fatal request answer := by
  constructor
  · intro goes
    exact breaksOn.fatal_of_goes goes rfl
  · rintro ⟨rfl, front, request, answer, next, instant, rfl, reached, given, isFatal⟩
    rcases breaksOn.of_goes reached with isAbort | isCall
    · cases isAbort
    · refine reached.trans (.call given ?_)
      rw [(isCall answer).1 isFatal]
      exact .still _ _

/-! ## Programs that never break off -/

/-- However it is answered, a program does not break off. -/
def Unbroken (answers : σ → (request : Call) → Answer request → σ → Prop)
    (program : Program Call Answer α) : Prop :=
  ∀ start exchanges message finish, ¬ Goes answers program start exchanges (.abort message) finish

theorem unbroken_done (value : α) : (done value : Program Call Answer α).Unbroken answers := by
  intro start exchanges message finish goes
  cases (goes_done_iff.mp goes).2.1

theorem unbroken_call {request : Call} {next : Answer request → Program Call Answer α}
    (rest : ∀ answer, (next answer).Unbroken answers) :
    (call request next).Unbroken answers := by
  intro start exchanges message finish goes
  rcases goes_call_iff.mp goes with ⟨_, isCall, _⟩ | ⟨answer, middle, others, _, _, goesOn⟩
  · cases isCall
  · exact rest answer middle others message finish goesOn

/-- Two programs in a row break off in the first one, or in the second one after the first. -/
theorem goes_bind_abort {next : α → Program Call Answer β}
    (goes : Goes answers (program.bind next) start exchanges (.abort text) finish) :
    Goes answers program start exchanges (.abort text) finish ∨
      ∃ value front middle back, Goes answers program start front (.done value) middle ∧
        Goes answers (next value) middle back (.abort text) finish := by
  rcases goes_bind_iff.mp goes with
    ⟨left, reached, isLeft⟩ | ⟨value, middle, front, back, _, first, second⟩
  · cases left with
    | done value => exact Or.inr ⟨value, exchanges, finish, [], reached, isLeft ▸ .still _ _⟩
    | abort message =>
        cases isLeft
        exact Or.inl reached
    | call request next => cases isLeft
  · exact Or.inr ⟨value, front, middle, back, first, second⟩

theorem Unbroken.bind {next : α → Program Call Answer β} (front : program.Unbroken answers)
    (back : ∀ value start exchanges finish,
      Goes answers program start exchanges (.done value) finish → (next value).Unbroken answers) :
    (program.bind next).Unbroken answers := by
  intro start exchanges message finish goes
  rcases goes_bind_abort goes with broken | ⟨value, exchanged, middle, rest, first, second⟩
  · exact front start exchanges message finish broken
  · exact back value start exchanged middle first middle rest message finish second

end Program

/-! ## Provisioning -/

namespace Provision

/-- A wait with the given timeout was given up because its deadline lies beyond the clock. -/
def IsBeyondClock (timeout : Duration) : (request : CapabilityCall) → request.Answer → Prop
  | .awaitSettled _ _ span, outcome => span = timeout ∧ outcome = .beyondClock
  | .get .., _ => False
  | .listIn .., _ => False
  | .listAll .., _ => False
  | .create _, _ => False
  | .loadDefaults, _ => False

/-- A program that breaks off where a wait with the timeout is given up, and nowhere else. -/
abbrev BreaksAtWaits {α : Type} (timeout : Duration) (program : CapabilityProgram α) : Prop :=
  program.BreaksOn (IsBeyondClock timeout) Wait.beyondClockMessage

section Breaking

variable {operatorNamespace : String} {serial : Serial} {requester : Requester}
  {requirement : Requirement} {timeout : Duration} {lookup : Lookup} {α : Type}

theorem breaksAtWaits_await {namespaceName name : String}
    {next : Wait.End Capability → CapabilityProgram α}
    (broken : next .beyondClock = .abort Wait.beyondClockMessage)
    (met : ∀ ready, BreaksAtWaits timeout (next (.met ready)))
    (failed : ∀ error, BreaksAtWaits timeout (next (.failed error))) :
    BreaksAtWaits timeout (.call (.awaitSettled namespaceName name timeout) next) := by
  intro answer
  cases answer with
  | beyondClock => exact ⟨fun _ => broken, fun alive => absurd ⟨rfl, rfl⟩ alive⟩
  | met ready => exact ⟨(fun ⟨_, isOver⟩ => nomatch isOver), fun _ => met ready⟩
  | failed error => exact ⟨(fun ⟨_, isOver⟩ => nomatch isOver), fun _ => failed error⟩

theorem breaksAtWaits_lookup
    {next : lookup.request.Answer → CapabilityProgram α}
    (rest : ∀ answer, BreaksAtWaits timeout (next answer)) :
    BreaksAtWaits timeout (.call lookup.request next) := by
  cases lookup with
  | byName namespaceName name => exact fun answer => ⟨False.elim, fun _ => rest answer⟩
  | byLabels namespaceName? labels =>
      cases namespaceName? with
      | none => exact fun answer => ⟨False.elim, fun _ => rest answer⟩
      | some namespaceName => exact fun answer => ⟨False.elim, fun _ => rest answer⟩

private theorem breaksAtWaits_useExisting (existing : Capability) :
    BreaksAtWaits timeout (useExisting requirement timeout existing).run := by
  rw [run_useExisting]
  cases existing.validate requirement with
  | error error => trivial
  | ok _ =>
      by_cases terminal : existing.phase.isTerminal = true
      · simp only [if_pos terminal]
        trivial
      · simp only [if_neg terminal]
        exact breaksAtWaits_await rfl (fun _ => trivial) (fun _ => trivial)

private theorem breaksAtWaits_awaitCreated (target : Capability) :
    BreaksAtWaits timeout (awaitCreated lookup timeout target).run := by
  rw [run_awaitCreated]
  refine breaksAtWaits_await rfl ?_ (fun _ => trivial)
  intro ready
  by_cases failed : ready.phase = .failed
  · simp only [if_pos failed]
    trivial
  · simp only [if_neg failed]
    refine breaksAtWaits_lookup ?_
    intro answer
    match lookup.outcome answer with
    | .ok (some resolved) => trivial
    | .ok none => trivial
    | .error failure => trivial

private theorem breaksAtWaits_adopt (built : Capability) :
    BreaksAtWaits timeout (adopt requirement built >>= awaitCreated lookup timeout).run := by
  rw [run_adopt_bind]
  intro answer
  refine ⟨False.elim, fun _ => ?_⟩
  match answer with
  | .error failure => trivial
  | .ok none => trivial
  | .ok (some existing) =>
      dsimp only
      cases existing.validate requirement with
      | error error => trivial
      | ok _ => exact breaksAtWaits_awaitCreated existing

private theorem breaksAtWaits_createOrAdopt (built : Capability) :
    BreaksAtWaits timeout
      (createOrAdopt requirement built >>= awaitCreated lookup timeout).run := by
  rw [run_createOrAdopt_bind]
  intro answer
  refine ⟨False.elim, fun _ => ?_⟩
  cases answer with
  | ok written => exact breaksAtWaits_awaitCreated built
  | error failure =>
      by_cases taken : failure.saysTaken = true
      · simp only [if_pos taken]
        exact breaksAtWaits_adopt built
      · simp only [if_neg taken]
        trivial

private theorem breaksAtWaits_provideNew :
    BreaksAtWaits timeout
      (provideNew operatorNamespace serial requester requirement timeout lookup).run := by
  rw [run_provideNew]
  intro answer
  refine ⟨False.elim, fun _ => ?_⟩
  cases answer with
  | error failure => trivial
  | ok defaults =>
      dsimp only
      cases Placement.build requester requirement defaults operatorNamespace serial with
      | error error => trivial
      | ok built => exact breaksAtWaits_createOrAdopt built

theorem breaksAtWaits_provide :
    BreaksAtWaits timeout
      (provide operatorNamespace serial requester requirement timeout) := by
  cases planned : Lookup.plan requester requirement with
  | error error =>
      rw [provide, planned]
      trivial
  | ok lookup =>
      rw [provide_eq_call _ _ _ _ _ _ planned]
      refine breaksAtWaits_lookup ?_
      intro answer
      cases lookup.outcome answer with
      | error failure => trivial
      | ok found? =>
          cases found? with
          | none => exact breaksAtWaits_provideNew
          | some existing => exact breaksAtWaits_useExisting existing

end Breaking

end Provision

end Provisioning
