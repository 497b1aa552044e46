import Provisioning.Proofs.Interleaving
import Provisioning.Proofs.Surroundings

/-!
# Provisioning and all of its collaborators

To provisioning a wait is one call.  Here it is taken apart: the program asks the clock, reads what
there is, opens a stream and takes its events one by one, and for each of these it gets an answer, as
for the calls to the store and for the operator's defaults.  A wait is followed for a number of events
that is left open, and breaks off when it wants more.
-/

namespace Provisioning

/-- A call to a collaborator: one of provisioning other than a wait, or an operation of a wait. -/
inductive CollaboratorCall where
  | ask (request : CapabilityCall)
  | watch (operation : WatchCall)

abbrev CollaboratorCall.Answer : CollaboratorCall → Type
  | .ask request => request.Answer
  | .watch operation => operation.Answer

abbrev CollaboratorProgram := Program CollaboratorCall CollaboratorCall.Answer

namespace Wait

/-- The operations of a wait as calls to its collaborators. -/
def watching {α : Type} (program : Program WatchCall WatchCall.Answer α) : CollaboratorProgram α :=
  program.expand fun operation => Program.perform (CollaboratorCall.watch operation)

/-- What is said of a wait that wants more events than it is followed for. -/
def cutShortMessage : String := "the wait goes on"

end Wait

/-- A call of provisioning in terms of its collaborators, its wait for so many events. -/
def CapabilityCall.inDetail (events : Nat) :
    (request : CapabilityCall) → CollaboratorProgram request.Answer
  | .get namespaceName name => Program.perform (CollaboratorCall.ask (.get namespaceName name))
  | .listIn namespaceName labels =>
      Program.perform (CollaboratorCall.ask (.listIn namespaceName labels))
  | .listAll labels => Program.perform (CollaboratorCall.ask (.listAll labels))
  | .create capability => Program.perform (CollaboratorCall.ask (.create capability))
  | .loadDefaults => Program.perform (CollaboratorCall.ask .loadDefaults)
  | .awaitSettled namespaceName name timeout =>
      (Wait.watching (settlementWait (.named namespaceName name) timeout events)).bind fun
        | some ended => .done ended
        | none => .abort Wait.cutShortMessage

/-- A program of provisioning in terms of its collaborators. -/
def inDetail {α : Type} (events : Nat) (program : CapabilityProgram α) : CollaboratorProgram α :=
  program.expand (CapabilityCall.inDetail events)

/-- A call other than a wait is made as it is. -/
theorem inDetail_call {α : Type} {events : Nat} (request : CapabilityCall)
    (immediate : ∀ namespaceName name timeout, request ≠ .awaitSettled namespaceName name timeout)
    (next : request.Answer → CapabilityProgram α) :
    inDetail events (.call request next) =
      .call (.ask request) fun answer => inDetail events (next answer) := by
  cases request with
  | get namespaceName name => rfl
  | listIn namespaceName labels => rfl
  | listAll labels => rfl
  | create capability => rfl
  | loadDefaults => rfl
  | awaitSettled namespaceName name timeout => exact absurd rfl (immediate _ _ _)

@[simp]
theorem inDetail_lookup {α : Type} {events : Nat} (lookup : Lookup)
    (next : lookup.request.Answer → CapabilityProgram α) :
    inDetail events (.call lookup.request next) =
      .call (.ask lookup.request) fun answer => inDetail events (next answer) := by
  refine inDetail_call lookup.request (fun namespaceName name timeout isWait => ?_) next
  cases lookup with
  | byName _ _ => cases isWait
  | byLabels namespaceName? _ =>
      cases namespaceName? with
      | none => cases isWait
      | some _ => cases isWait

theorem inDetail_awaitSettled {α : Type} {events : Nat} (namespaceName name : String)
    (timeout : Duration) (next : Wait.End Capability → CapabilityProgram α) :
    inDetail events (.call (.awaitSettled namespaceName name timeout) next) =
      (Wait.watching (settlementWait (.named namespaceName name) timeout events)).bind fun
        | some ended => inDetail events (next ended)
        | none => .abort Wait.cutShortMessage := by
  rw [inDetail, Program.expand, CapabilityCall.inDetail, Program.bind_assoc]
  refine congrArg (Program.bind _) (funext fun ended? => ?_)
  cases ended? with
  | none => rfl
  | some ended => rfl

/-! ## A wait as a tree of its operations -/

@[simp]
theorem Program.perform_bind {Call β : Type} {Answer : Call → Type} (request : Call)
    (next : Answer request → Program Call Answer β) :
    (Program.perform request >>= next) = .call request next :=
  rfl

namespace Wait

variable {α : Type} {locator : Locator} {begun timeout deadline : Duration}

/-- After the deadline the clock is read, and the wait has timed out. -/
def outOfTime (locator : Locator) (begun : Duration)
    (next : Option (End Capability) → CollaboratorProgram α) : CollaboratorProgram α :=
  .call (.watch .now) fun instant => next (some (.failed (.timedOut locator (instant - begun))))

theorem watching_listen_succ_bind {subscription : Locator} {events : Nat}
    (next : Option (End Capability) → CollaboratorProgram α) :
    (watching (listen watchCalls (fun capability => pure capability.phase.isTerminal) locator begun
        deadline subscription (events + 1))).bind next =
      .call (.watch (.next subscription deadline)) fun
        | .late => outOfTime locator begun next
        | .inTime none => next (some (.failed (.subscriptionFailed locator "event stream ended")))
        | .inTime (some (.error error)) => next (some (.failed error))
        | .inTime (some (.ok event)) =>
            if event.object.phase.isTerminal then next (some (.met event.object))
            else
              (watching (listen watchCalls (fun capability => pure capability.phase.isTerminal)
                locator begun deadline subscription events)).bind next := by
  refine congrArg (Program.call _) (funext fun answer => ?_)
  rcases answer with ⟨_ | error | event⟩ | _
  · rfl
  · rfl
  · change (watching (if event.object.phase.isTerminal then pure (some (.met event.object))
      else listen watchCalls _ locator begun deadline subscription events)).bind next = _
    by_cases settled : event.object.phase.isTerminal = true
    · simp only [if_pos settled]
      rfl
    · simp only [if_neg settled]
  · rfl

private theorem settlementWait_eq_call {events : Nat} :
    settlementWait locator timeout events =
      .call .now fun begun =>
        match deadline? begun timeout with
        | none => .done (some .beyondClock)
        | some deadline =>
            .call (.current locator deadline) fun
              | .late => some <$> timedOut watchCalls locator begun
              | .inTime (.error error) => .done (some (.failed error))
              | .inTime (.ok objects) =>
                  match objects.find? (·.phase.isTerminal) with
                  | some object => .done (some (.met object))
                  | none =>
                      .call (.subscribe locator deadline) fun
                        | .late => some <$> timedOut watchCalls locator begun
                        | .inTime (.error error) => .done (some (.failed error))
                        | .inTime (.ok subscription) =>
                            listen watchCalls (fun capability => pure capability.phase.isTerminal)
                              locator begun deadline subscription events := by
  simp only [settlementWait, run, watchCalls, Program.perform_bind, firstMeeting_pure, pure_bind]
  refine congrArg (Program.call _) (funext fun begun => ?_)
  cases deadline? begun timeout with
  | none => rfl
  | some deadline =>
      refine congrArg (Program.call _) (funext fun answer => ?_)
      rcases answer with ⟨error | objects⟩ | _
      · rfl
      · dsimp only
        cases objects.find? (·.phase.isTerminal) with
        | some object => rfl
        | none =>
            refine congrArg (Program.call _) (funext fun answer => ?_)
            rcases answer with ⟨error | subscription⟩ | _
            · rfl
            · rfl
            · rfl
      · rfl

theorem watching_settlementWait_bind {events : Nat}
    (next : Option (End Capability) → CollaboratorProgram α) :
    (watching (settlementWait locator timeout events)).bind next =
      .call (.watch .now) fun begun =>
        match deadline? begun timeout with
        | none => next (some .beyondClock)
        | some deadline =>
            .call (.watch (.current locator deadline)) fun
              | .late => outOfTime locator begun next
              | .inTime (.error error) => next (some (.failed error))
              | .inTime (.ok objects) =>
                  match objects.find? (·.phase.isTerminal) with
                  | some object => next (some (.met object))
                  | none =>
                      .call (.watch (.subscribe locator deadline)) fun
                        | .late => outOfTime locator begun next
                        | .inTime (.error error) => next (some (.failed error))
                        | .inTime (.ok subscription) =>
                            (watching (listen watchCalls
                              (fun capability => pure capability.phase.isTerminal) locator begun
                              deadline subscription events)).bind next := by
  rw [settlementWait_eq_call]
  refine congrArg (Program.call _) (funext fun begun => ?_)
  change (watching (match deadline? begun timeout with | none => _ | some deadline => _)).bind next
    = _
  cases deadline? begun timeout with
  | none => rfl
  | some deadline =>
      refine congrArg (Program.call _) (funext fun answer => ?_)
      rcases answer with ⟨error | objects⟩ | _
      · rfl
      · change (watching (match objects.find? _ with | some object => _ | none => _)).bind next = _
        dsimp only
        cases objects.find? (·.phase.isTerminal) with
        | some object => rfl
        | none =>
            refine congrArg (Program.call _) (funext fun answer => ?_)
            rcases answer with ⟨error | subscription⟩ | _
            · rfl
            · rfl
            · rfl
      · rfl

end Wait

end Provisioning
