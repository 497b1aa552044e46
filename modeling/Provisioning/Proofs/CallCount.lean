import Provisioning.Proofs.Concurrency

/-!
# How many requests a call makes

Whatever the answers, provisioning comes to its end after a few requests: it never tries again.
Main statement: `callsAtMost_provide`.
-/

namespace Provisioning.Provision

private theorem callsAtMost_find (lookup : Lookup) : CallsAtMost (find lookup) 1 := by
  cases lookup with
  | byName namespaceName name =>
      refine (callsAtMost_ask _).bind 0 ?_ (Nat.le_refl 1)
      exact fun answer => callsAtMost_orFail answer
  | byLabels namespaceName? labels =>
      have choice : ∀ answer : Except Failure (List Capability),
          CallsAtMost (do return first? (← orFail answer)) 0 := by
        intro answer
        refine (callsAtMost_orFail answer).bind 0 ?_ (Nat.le_refl 0)
        exact fun objects => callsAtMost_pure (first? objects)
      cases namespaceName? with
      | none => exact (callsAtMost_ask _).bind 0 choice (Nat.le_refl 1)
      | some namespaceName => exact (callsAtMost_ask _).bind 0 choice (Nat.le_refl 1)

private theorem callsAtMost_settled (capability : Capability) (timeout : Duration) :
    CallsAtMost (settled capability timeout) 1 := by
  refine (callsAtMost_ask _).bind 0 ?_ (Nat.le_refl 1)
  intro answer
  cases answer with
  | met object => exact callsAtMost_pure object
  | failed error => exact callsAtMost_throw _
  | beyondClock => trivial

private theorem callsAtMost_adopt (requirement : Requirement) (capability : Capability) :
    CallsAtMost (adopt requirement capability) 1 := by
  refine (callsAtMost_ask _).bind 0 ?_ (Nat.le_refl 1)
  intro answer
  refine (callsAtMost_orFail answer).bind 0 ?_ (Nat.le_refl 0)
  intro found?
  cases found? with
  | none => exact callsAtMost_throw _
  | some existing =>
      refine (callsAtMost_orEnd _).bind 0 ?_ (Nat.le_refl 0)
      exact fun _ => callsAtMost_pure existing

private theorem callsAtMost_createOrAdopt (requirement : Requirement) (capability : Capability) :
    CallsAtMost (createOrAdopt requirement capability) 2 := by
  refine (callsAtMost_ask _).bind 1 ?_ (Nat.le_refl 2)
  intro answer
  match answer with
  | .ok _ => trivial
  | .error (.server error) =>
      by_cases taken : error.isAlreadyExists = true
      · simp only [if_pos taken]
        exact callsAtMost_adopt requirement capability
      · simp only [if_neg taken]
        trivial
  | .error (.validation ..) => trivial
  | .error (.serialization ..) => trivial
  | .error (.timeout ..) => trivial
  | .error (.internal ..) => trivial

private theorem callsAtMost_useExisting (requirement : Requirement) (timeout : Duration)
    (existing : Capability) : CallsAtMost (useExisting requirement timeout existing) 1 := by
  refine (callsAtMost_orEnd _).bind 1 ?_ (Nat.le_refl 1)
  intro _
  by_cases terminal : existing.phase.isTerminal = true
  · simp only [if_pos terminal]
    trivial
  · simp only [if_neg terminal]
    refine (callsAtMost_settled existing timeout).bind 0 ?_ (Nat.le_refl 1)
    exact fun capability => callsAtMost_orEnd _

private theorem callsAtMost_awaitCreated (lookup : Lookup) (timeout : Duration) (target : Capability) :
    CallsAtMost (awaitCreated lookup timeout target) 2 := by
  refine (callsAtMost_settled target timeout).bind 1 ?_ (Nat.le_refl 2)
  intro capability
  by_cases failed : capability.phase = .failed
  · simp only [if_pos failed]
    trivial
  · simp only [if_neg failed]
    refine (callsAtMost_find lookup).bind 0 ?_ (Nat.le_refl 1)
    intro found?
    cases found? with
    | none => exact callsAtMost_throw _
    | some resolved => exact callsAtMost_orEnd _

/-- A call makes six requests at most: it looks up, loads the defaults, creates, reads what has its
place already, waits, and looks up again. -/
theorem callsAtMost_provideBy (operatorNamespace : String) (serial : Serial) (requester : Requester)
    (requirement : Requirement) (timeout : Duration) (lookup : Lookup) :
    CallsAtMost (provideBy operatorNamespace serial requester requirement timeout lookup) 6 := by
  refine (callsAtMost_find lookup).bind 5 ?_ (Nat.le_refl 6)
  intro found?
  cases found? with
  | some existing => exact (callsAtMost_useExisting requirement timeout existing).mono (by decide)
  | none =>
      refine (callsAtMost_ask _).bind 4 ?_ (Nat.le_refl 5)
      intro answer
      refine (callsAtMost_orFail answer).bind 4 ?_ (Nat.le_refl 4)
      intro defaults
      refine (callsAtMost_orEnd _).bind 4 ?_ (Nat.le_refl 4)
      intro capability
      refine (callsAtMost_createOrAdopt requirement capability).bind 2 ?_ (Nat.le_refl 4)
      exact fun target => callsAtMost_awaitCreated lookup timeout target

theorem callsAtMost_provide (operatorNamespace : String) (serial : Serial) (requester : Requester)
    (requirement : Requirement) (timeout : Duration) :
    (provide operatorNamespace serial requester requirement timeout).AtMost 6 := by
  unfold provide
  cases Lookup.plan requester requirement with
  | error error => trivial
  | ok lookup =>
      exact callsAtMost_provideBy operatorNamespace serial requester requirement timeout lookup

end Provisioning.Provision
