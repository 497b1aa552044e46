import Provisioning.Proofs.Runs

/-!
# Provisioning as a tree of calls

Provisioning is written out as the tree of its calls: what it asks for first, and what it goes on with
for each answer (`provide_eq_call`, `run_useExisting`, `run_provideNew`, `run_createOrAdopt_bind`,
`run_adopt_bind`, `run_awaitCreated`).
-/

namespace Provisioning

/-! ## Lookups as calls -/

namespace Lookup

/-- The call that a lookup makes. -/
def request : Lookup → CapabilityCall
  | .byName namespaceName name => .get namespaceName name
  | .byLabels (some namespaceName) labels => .listIn namespaceName labels
  | .byLabels none labels => .listAll labels

/-- What a lookup finds in the answer to its call. -/
def outcome : (lookup : Lookup) → lookup.request.Answer → Except Failure (Option Capability)
  | .byName _ _, answer => answer
  | .byLabels (some _) _, answer => Except.map Provision.first? answer
  | .byLabels none _, answer => Except.map Provision.first? answer

end Lookup

/-- Whether the server refused a name because it is taken. -/
def Failure.saysTaken : Failure → Bool
  | .server error => error.isAlreadyExists
  | _ => false

@[simp]
theorem Failure.saysTaken_iff {failure : Failure} :
    failure.saysTaken = true ↔
      ∃ response : ErrorResponse, failure = .server (.refused response) ∧ response.code = 409 := by
  constructor
  · intro taken
    match failure, taken with
    | .server (.refused response), taken =>
        have code : response.code = 409 := by
          simpa [saysTaken, ServerError.isAlreadyExists, ServerError.hasCode] using taken
        exact ⟨response, rfl, code⟩
  · rintro ⟨response, rfl, code⟩
    simp [saysTaken, ServerError.isAlreadyExists, ServerError.hasCode, code]

/-! ## Provisioning as a tree of calls -/

namespace Provision

/-- A request of provisioning and its answer. -/
abbrev Exchange := Program.Exchange CapabilityCall CapabilityCall.Answer

variable {α β : Type}

@[simp]
theorem run_ask_bind (request : CapabilityCall) (next : request.Answer → Attempt α) :
    (ask request >>= next).run = .call request fun answer => (next answer).run :=
  rfl

@[simp]
theorem run_orEnd_bind (result : Except ProvisioningError β) (next : β → Attempt α) :
    (orEnd result >>= next).run =
      match result with
      | .ok value => (next value).run
      | .error error => .done (.error error) := by
  cases result with
  | ok value => rfl
  | error error => rfl

@[simp]
theorem run_orFail_bind (result : Except Failure β) (next : β → Attempt α) :
    (orFail result >>= next).run =
      match result with
      | .ok value => (next value).run
      | .error failure => .done (.error (.failed failure)) := by
  cases result with
  | ok value => rfl
  | error failure => rfl

@[simp]
theorem run_find_bind (lookup : Lookup) (next : Option Capability → Attempt α) :
    (find lookup >>= next).run = .call lookup.request fun answer =>
      match lookup.outcome answer with
      | .ok found? => (next found?).run
      | .error failure => .done (.error (.failed failure)) := by
  cases lookup with
  | byName namespaceName name =>
      rw [find, bind_assoc, run_ask_bind]
      congr 1
      funext answer
      cases answer with
      | ok found? => rfl
      | error failure => rfl
  | byLabels namespaceName? labels =>
      have choice : ∀ answer : Except Failure (List Capability),
          ((do return first? (← orFail answer) : Attempt (Option Capability)) >>= next).run =
            match answer.map first? with
            | .ok found? => (next found?).run
            | .error failure => .done (.error (.failed failure)) := by
        intro answer
        cases answer with
        | ok objects => rfl
        | error failure => rfl
      cases namespaceName? with
      | none =>
          rw [find, bind_assoc, run_ask_bind]
          congr 1
          funext answer
          exact choice answer
      | some namespaceName =>
          rw [find, bind_assoc, run_ask_bind]
          congr 1
          funext answer
          exact choice answer

@[simp]
theorem run_settled_bind (capability : Capability) (timeout : Duration)
    (next : Capability → Attempt α) :
    (settled capability timeout >>= next).run =
      .call (.awaitSettled capability.home capability.name timeout) fun
        | .met ready => (next ready).run
        | .failed error => .done (.error (.ofWait error))
        | .beyondClock => .abort Wait.beyondClockMessage := by
  rw [settled, bind_assoc, run_ask_bind]
  congr 1
  funext answer
  cases answer with
  | met ready => rfl
  | failed error => rfl
  | beyondClock => rfl

theorem run_adopt_bind (requirement : Requirement) (capability : Capability)
    (next : Capability → Attempt α) :
    (adopt requirement capability >>= next).run =
      .call (.get capability.home capability.name) fun
        | .ok (some existing) =>
            match existing.validate requirement with
            | .ok () => (next existing).run
            | .error error => .done (.error error)
        | .ok none =>
            .done (.error (.inconsistent capability.home capability.name
              "create reported the name taken but it cannot be read"))
        | .error failure => .done (.error (.failed failure)) := by
  rw [adopt, bind_assoc, run_ask_bind]
  congr 1
  funext answer
  rw [bind_assoc, run_orFail_bind]
  match answer with
  | .error failure => rfl
  | .ok none => rfl
  | .ok (some existing) =>
      simp only [bind_assoc, pure_bind]
      cases existing.validate requirement with
      | ok _ => rfl
      | error error => rfl

theorem run_createOrAdopt_bind (requirement : Requirement) (capability : Capability)
    (next : Capability → Attempt α) :
    (createOrAdopt requirement capability >>= next).run =
      .call (.create capability) fun
        | .ok _ => (next capability).run
        | .error failure =>
            if failure.saysTaken then (adopt requirement capability >>= next).run
            else .done (.error (.failed failure)) := by
  rw [createOrAdopt, bind_assoc, run_ask_bind]
  congr 1
  funext answer
  match answer with
  | .ok _ => rfl
  | .error (.server error) =>
      by_cases taken : error.isAlreadyExists = true
      · have named : Failure.saysTaken (.server error) = true := taken
        simp only [if_pos taken, if_pos named]
      · have silent : ¬ Failure.saysTaken (.server error) = true := taken
        simp only [if_neg taken, if_neg silent]
        rfl
  | .error (.validation ..) => rfl
  | .error (.serialization ..) => rfl
  | .error (.timeout ..) => rfl
  | .error (.internal ..) => rfl

section Calls

variable (operatorNamespace : String) (serial : Serial) (requester : Requester)
  (requirement : Requirement) (timeout : Duration) (lookup : Lookup)

theorem run_useExisting (existing : Capability) :
    (useExisting requirement timeout existing).run =
      match existing.validate requirement with
      | .error error => .done (.error error)
      | .ok () =>
          if existing.phase.isTerminal then .done (ProvisionResult.ofCapability existing)
          else
            .call (.awaitSettled existing.home existing.name timeout) fun
              | .met ready => .done (ProvisionResult.ofCapability ready)
              | .failed error => .done (.error (.ofWait error))
              | .beyondClock => .abort Wait.beyondClockMessage := by
  rw [useExisting, run_orEnd_bind]
  cases existing.validate requirement with
  | error error => rfl
  | ok _ =>
      by_cases terminal : existing.phase.isTerminal = true
      · simp only [if_pos terminal, pure_bind]
        rfl
      · simp only [if_neg terminal, run_settled_bind]
        congr 1
        funext answer
        cases answer with
        | met ready => rfl
        | failed error => rfl
        | beyondClock => rfl

theorem run_awaitCreated (target : Capability) :
    (awaitCreated lookup timeout target).run =
      .call (.awaitSettled target.home target.name timeout) fun
        | .met ready =>
            if ready.phase = .failed then .done (ProvisionResult.ofCapability ready)
            else
              .call lookup.request fun answer =>
                match lookup.outcome answer with
                | .ok (some resolved) => .done (ProvisionResult.ofCapability resolved)
                | .ok none =>
                    .done (.error (.inconsistent target.home target.name
                      "provisioned capability is not found by its lookup"))
                | .error failure => .done (.error (.failed failure))
        | .failed error => .done (.error (.ofWait error))
        | .beyondClock => .abort Wait.beyondClockMessage := by
  rw [awaitCreated, run_settled_bind]
  congr 1
  funext answer
  match answer with
  | .failed error => rfl
  | .beyondClock => rfl
  | .met ready =>
      by_cases failed : ready.phase = .failed
      · simp only [if_pos failed]
        rfl
      · simp only [if_neg failed, run_find_bind]
        congr 1
        funext answer
        match lookup.outcome answer with
        | .ok (some resolved) => rfl
        | .ok none => rfl
        | .error failure => rfl

theorem run_provideNew :
    (provideNew operatorNamespace serial requester requirement timeout lookup).run =
      .call .loadDefaults fun
        | .ok defaults =>
            match Placement.build requester requirement defaults operatorNamespace serial with
            | .ok built => (createOrAdopt requirement built >>= awaitCreated lookup timeout).run
            | .error error => .done (.error error)
        | .error failure => .done (.error (.failed failure)) := by
  rw [provideNew, run_ask_bind]
  congr 1
  funext answer
  cases answer with
  | error failure => rfl
  | ok defaults =>
      rw [run_orFail_bind]
      simp only [run_orEnd_bind]
      cases Placement.build requester requirement defaults operatorNamespace serial with
      | ok built => rfl
      | error error => rfl

/-- A call begins with its lookup. -/
theorem provide_eq_call (planned : Lookup.plan requester requirement = .ok lookup) :
    provide operatorNamespace serial requester requirement timeout =
      .call lookup.request fun answer =>
        match lookup.outcome answer with
        | .ok (some existing) => (useExisting requirement timeout existing).run
        | .ok none => (provideNew operatorNamespace serial requester requirement timeout lookup).run
        | .error failure => .done (.error (.failed failure)) := by
  rw [provide, planned]
  simp only [provideBy, run_find_bind]
  congr 1
  funext answer
  match lookup.outcome answer with
  | .ok (some existing) => rfl
  | .ok none => rfl
  | .error failure => rfl

end Calls

end Provision

end Provisioning
