import Provisioning.Proofs.Surroundings

/-!
# Two calls that look alike from one namespace

A requirement of dedicated or namespace scope is provided for within the requester's namespace.  Two
calls for it may differ in what the operator has set and in the name they would draw: as long as they
are answered so that the namespace looks the same to both, they make the same calls, in that
namespace, create at most one capability there, and end alike (`isolated_provide`).  Nothing else is
said about the answers.
-/

namespace Provisioning

open ClusterObject

/-- A capability was handed out that lives in the namespace, and all that it refers to is there. -/
structure ProvisionResult.LiesIn (result : ProvisionResult) (namespaceName : String) : Prop where
  capability : result.capability.home = namespaceName
  service : result.service.namespaceName = some namespaceName
  ingress : ∀ reference, result.ingress = some reference →
    reference.namespaceName = some namespaceName
  adminSecret : ∀ reference, result.adminSecret = some reference →
    reference.namespaceName = some namespaceName

namespace CapabilityCall

/-- A call names the namespace, or asks for the operator's defaults. -/
def NamesOnly (namespaceName : String) : CapabilityCall → Prop
  | .get asked _ => asked = namespaceName
  | .listIn asked _ => asked = namespaceName
  | .listAll _ => False
  | .create capability => capability.home = namespaceName
  | .loadDefaults => True
  | .awaitSettled asked _ _ => asked = namespaceName

/-- Two answers show the same of a namespace: the same object of it, the same first one of several,
and of the operator's defaults no more than whether they could be loaded. -/
def ShowsSame (namespaceName : String) : (request : CapabilityCall) → (left right : request.Answer) →
    Prop
  | .get .., left, right =>
      left = right ∧ ∀ found, left = .ok (some found) → found.home = namespaceName
  | .listIn .., left, right =>
      left.map Provision.first? = right.map Provision.first? ∧
        ∀ found, left.map Provision.first? = .ok (some found) → found.home = namespaceName
  | .listAll _, _, _ => False
  | .create _, left, right => left = right
  | .loadDefaults, left, right => left.map (fun _ => ()) = right.map (fun _ => ())
  | .awaitSettled .., left, right =>
      left = right ∧ ∀ object, left = .met object → object.home = namespaceName

end CapabilityCall

/-- Two programs do the same within a namespace, whatever they are answered as long as it shows the
same: each of their calls names only the namespace, at most so many of them are creations, and the
programs end alike, with a result that lies in the namespace if with any. -/
inductive Isolated (namespaceName : String) :
    Nat → CapabilityProgram (Except ProvisioningError ProvisionResult) →
      CapabilityProgram (Except ProvisioningError ProvisionResult) → Prop where
  | done {creations : Nat} {outcome : Except ProvisioningError ProvisionResult}
      (inside : ∀ result, outcome = .ok result → result.LiesIn namespaceName) :
      Isolated namespaceName creations (.done outcome) (.done outcome)
  | abort {creations : Nat} (message : String) :
      Isolated namespaceName creations (.abort message) (.abort message)
  | reads {creations : Nat} {request : CapabilityCall}
      {left right : request.Answer → CapabilityProgram (Except ProvisioningError ProvisionResult)}
      (reading : request.isCreation = false) (inside : request.NamesOnly namespaceName)
      (next : ∀ seen other, request.ShowsSame namespaceName seen other →
        Isolated namespaceName creations (left seen) (right other)) :
      Isolated namespaceName creations (.call request left) (.call request right)
  | creates {creations : Nat} {capability : Capability}
      {left right : Except Failure Capability →
        CapabilityProgram (Except ProvisioningError ProvisionResult)}
      (inside : capability.home = namespaceName)
      (next : ∀ answer, Isolated namespaceName creations (left answer) (right answer)) :
      Isolated namespaceName (creations + 1) (.call (.create capability) left)
        (.call (.create capability) right)

namespace Placement

variable {requirement : Requirement}

/-- In the scopes of one namespace neither the operator nor chance has a say in what is built. -/
theorem exists_build_local (requester : Requester)
    (confined : requirement.effectiveScope = .dedicated ∨
      requirement.effectiveScope = .namespaced) :
    ∃ built : Capability, built.home = requester.namespaceName ∧
      ∀ defaults operatorNamespace serial,
        build requester requirement defaults operatorNamespace serial = .ok built := by
  have placed : ∃ name, ∀ defaults operatorNamespace serial,
      place requester requirement defaults operatorNamespace serial =
        .ok (requester.namespaceName, name) := by
    unfold place
    rcases confined with scope | scope
    · rw [scope]
      exact ⟨_, fun _ _ _ => rfl⟩
    · rw [scope]
      exact ⟨_, fun _ _ _ => rfl⟩
  obtain ⟨name, atPlace⟩ := placed
  refine ⟨_, ?_, fun defaults operatorNamespace serial =>
    build_eq_ok_iff.mpr ⟨_, _, atPlace defaults operatorNamespace serial, rfl⟩⟩
  rfl

end Placement

private theorem Lookup.exists_plan_local {requirement : Requirement} (requester : Requester)
    (confined : requirement.effectiveScope = .dedicated ∨
      requirement.effectiveScope = .namespaced) :
    ∃ lookup, plan requester requirement = .ok lookup ∧
      lookup.request.NamesOnly requester.namespaceName := by
  unfold plan
  rcases confined with scope | scope
  · rw [scope]
    exact ⟨_, rfl, rfl⟩
  · rw [scope]
    exact ⟨_, rfl, rfl⟩

namespace Provision

variable {namespaceName : String} {creations : Nat} {requirement : Requirement}
  {timeout : Duration} {lookup : Lookup}

private theorem liesIn_of_ofCapability {capability : Capability} {result : ProvisionResult}
    (given : ProvisionResult.ofCapability capability = .ok result) :
    result.LiesIn capability.home := by
  obtain ⟨_, _, server, service, _, _, rfl⟩ := ProvisionResult.ofCapability_eq_ok_iff.mp given
  refine ⟨rfl, rfl, ?_, ?_⟩
  · rintro reference isReference
    obtain ⟨_, _, rfl⟩ := Option.map_eq_some_iff.mp isReference
    rfl
  · rintro reference isReference
    obtain ⟨_, _, rfl⟩ := Option.map_eq_some_iff.mp isReference
    rfl

private theorem isolated_ofCapability {capability : Capability} (inside : capability.home = namespaceName) :
    Isolated namespaceName creations (.done (ProvisionResult.ofCapability capability))
      (.done (ProvisionResult.ofCapability capability)) :=
  .done fun _ given => inside ▸ liesIn_of_ofCapability given

private theorem isolated_error (error : ProvisioningError) :
    Isolated namespaceName creations (.done (.error error)) (.done (.error error)) := by
  refine .done ?_
  intro result given
  cases given

/-- To a lookup that names the namespace two answers that show the same are alike. -/
theorem isolated_asks (inside : lookup.request.NamesOnly namespaceName)
    {left right : Option Capability →
      CapabilityProgram (Except ProvisioningError ProvisionResult)}
    (next : ∀ found?, (∀ found, found? = some found → found.home = namespaceName) →
      Isolated namespaceName creations (left found?) (right found?)) :
    Isolated namespaceName creations (asks lookup left) (asks lookup right) := by
  have same : ∀ seen other, lookup.request.ShowsSame namespaceName seen other →
      lookup.outcome seen = lookup.outcome other ∧
        ∀ found, lookup.outcome seen = .ok (some found) → found.home = namespaceName := by
    intro seen other shows
    cases lookup with
    | byName asked name =>
        obtain ⟨rfl, within⟩ := shows
        exact ⟨rfl, within⟩
    | byLabels asked? labels =>
        cases asked? with
        | none => exact inside.elim
        | some asked => exact shows
  have reading : lookup.request.isCreation = false := by
    cases lookup with
    | byName asked name => rfl
    | byLabels asked? labels =>
        cases asked? with
        | none => rfl
        | some asked => rfl
  refine .reads reading inside ?_
  intro seen other shows
  obtain ⟨sameOutcome, within⟩ := same seen other shows
  rw [← sameOutcome]
  cases outcome : lookup.outcome seen with
  | error failure => exact isolated_error _
  | ok found? =>
      refine next found? ?_
      rintro found rfl
      exact within found outcome

private theorem isolated_settled {target : Capability} (inside : target.home = namespaceName)
    {left right : Capability → CapabilityProgram (Except ProvisioningError ProvisionResult)}
    (next : ∀ ready : Capability, ready.home = namespaceName →
      Isolated namespaceName creations (left ready) (right ready)) :
    Isolated namespaceName creations
      (.call (.awaitSettled target.home target.name timeout) fun
        | .met ready => left ready
        | .failed error => .done (.error (.ofWait error))
        | .beyondClock => .abort Wait.beyondClockMessage)
      (.call (.awaitSettled target.home target.name timeout) fun
        | .met ready => right ready
        | .failed error => .done (.error (.ofWait error))
        | .beyondClock => .abort Wait.beyondClockMessage) := by
  refine .reads rfl inside ?_
  rintro seen _ ⟨rfl, within⟩
  cases seen with
  | met ready => exact next ready (within ready rfl)
  | failed error => exact isolated_error _
  | beyondClock => exact .abort _

private theorem isolated_useExisting {found : Capability} (inside : found.home = namespaceName) :
    Isolated namespaceName creations (useExisting requirement timeout found).run
      (useExisting requirement timeout found).run := by
  rw [run_useExisting]
  cases found.validate requirement with
  | error error => exact isolated_error error
  | ok _ =>
      by_cases terminal : found.phase.isTerminal = true
      · simp only [if_pos terminal]
        exact isolated_ofCapability inside
      · simp only [if_neg terminal]
        exact isolated_settled inside fun ready => isolated_ofCapability

private theorem isolated_awaitCreated (asksInside : lookup.request.NamesOnly namespaceName)
    {target : Capability} (inside : target.home = namespaceName) :
    Isolated namespaceName creations (awaitCreated lookup timeout target).run
      (awaitCreated lookup timeout target).run := by
  rw [run_awaitCreated_asks]
  refine isolated_settled inside ?_
  intro ready readyInside
  by_cases failed : ready.phase = .failed
  · simp only [if_pos failed]
    exact isolated_ofCapability readyInside
  · simp only [if_neg failed]
    refine isolated_asks asksInside ?_
    intro found? within
    cases found? with
    | none => exact isolated_error _
    | some resolved => exact isolated_ofCapability (within resolved rfl)

private theorem isolated_createOrAdopt (asksInside : lookup.request.NamesOnly namespaceName)
    {built : Capability} (inside : built.home = namespaceName) :
    Isolated namespaceName 1 (createOrAdopt requirement built >>= awaitCreated lookup timeout).run
      (createOrAdopt requirement built >>= awaitCreated lookup timeout).run := by
  rw [run_createOrAdopt_bind]
  refine .creates inside ?_
  intro answer
  cases answer with
  | ok written => exact isolated_awaitCreated asksInside inside
  | error failure =>
      by_cases taken : failure.saysTaken = true
      · simp only [if_pos taken, run_adopt_bind]
        refine .reads rfl inside ?_
        rintro read _ ⟨rfl, within⟩
        match read with
        | .error failure => exact isolated_error _
        | .ok none => exact isolated_error _
        | .ok (some existing) =>
            cases valid : existing.validate requirement with
            | error error =>
                simp only [valid]
                exact isolated_error _
            | ok _ =>
                simp only [valid]
                exact isolated_awaitCreated asksInside (within existing rfl)
      · simp only [if_neg taken]
        exact isolated_error _

/-- Neither the operator's settings nor the name that is drawn make a difference to a call within one
namespace. -/
theorem isolated_provide {requester : Requester}
    (confined : requirement.effectiveScope = .dedicated ∨ requirement.effectiveScope = .namespaced)
    (operatorNamespace otherOperator : String) (serial otherSerial : Serial) :
    Isolated requester.namespaceName 1
      (provide operatorNamespace serial requester requirement timeout)
      (provide otherOperator otherSerial requester requirement timeout) := by
  obtain ⟨lookup, planned, asksInside⟩ := Lookup.exists_plan_local requester confined
  obtain ⟨built, inside, isBuilt⟩ := Placement.exists_build_local requester confined
  rw [provide_eq_asks requirement timeout planned, provide_eq_asks requirement timeout planned]
  refine isolated_asks asksInside ?_
  intro found? within
  cases found? with
  | some found => exact isolated_useExisting (within found rfl)
  | none =>
      simp only [run_provideNew, isBuilt]
      refine .reads rfl trivial ?_
      intro loaded other shows
      match loaded, other, shows with
      | .ok _, .ok _, _ => exact isolated_createOrAdopt asksInside inside
      | .error failure, .error _, rfl => exact isolated_error _

end Provision

end Provisioning
