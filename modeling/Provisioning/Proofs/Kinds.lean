import Provisioning.Proofs.Agreement
import Provisioning.Proofs.Repetition
import Provisioning.Proofs.Validity

/-!
# The kind of what is provided

No capability is refused for its kind.  In the namespace and cluster scopes the lookup asks for it,
in the labeled scope only if the selector does, and a name leads to whatever has the name.  What is
handed out is of the kind required where the lookup asks for the kind; in a quiet cluster it also is
where the lookup finds nothing at first, or something of the kind (`provide_ofKind_iff`).
-/

namespace Provisioning

open ClusterObject

/-! ## Lookups that ask for a kind -/

def Lookup.AsksFor (kind : CapabilityKind) : Lookup → Prop
  | .byName .. => False
  | .byLabels _ labels => labels.get? Conventions.kindLabel = some kind.label

theorem Lookup.AsksFor.kindLabel {lookup : Lookup} {kind : CapabilityKind} {capability : Capability}
    (asks : lookup.AsksFor kind) (matched : lookup.matchesCapability capability = true) :
    capability.kindLabel? = some kind.label := by
  cases lookup with
  | byName namespaceName name => exact asks.elim
  | byLabels namespaceName? labels =>
      exact Labels.carries_iff.mp (carries_of_matchesCapability matched) _ _ asks

/-- A lookup by name leads into a namespace, if the requester lives in one. -/
theorem Lookup.housed_of_plan {requester : Requester} {requirement : Requirement}
    {namespaceName name : String} (housed : requester.namespaceName ≠ "")
    (planned : plan requester requirement = .ok (byName namespaceName name)) :
    namespaceName ≠ "" := by
  rcases plan_eq_byName_iff.mp planned with ⟨_, isHome, _⟩ | ⟨_, target⟩
  · rw [isHome]
    exact housed
  · obtain ⟨_, _, _, _, homed, _⟩ := specifiedTarget_eq_ok_iff.mp target
    exact homed

private theorem Lookup.asksFor_sharedLabels (namespaceName? : Option String) (requirement : Requirement) :
    (byLabels namespaceName? (sharedLabels requirement)).AsksFor requirement.capability := by
  rw [AsksFor, get?_sharedLabels, if_neg Conventions.kindLabel_ne_scopeLabel,
    if_neg Conventions.kindLabel_ne_implementationLabel, if_pos rfl]

namespace Requirement

variable {requirement : Requirement} {requester : Requester} {lookup : Lookup}

/-- The lookup of a requirement asks for its kind, or there is no lookup: a selector has to name the
kind, and a reference that names nothing leads nowhere. -/
def PinsKind (requirement : Requirement) : Prop :=
  match requirement.effectiveScope with
  | .dedicated => False
  | .specified => requirement.specified.bind Reference.name? = none
  | .labeled => requirement.selector.isEmpty = false →
      requirement.selector.get? Conventions.kindLabel = some requirement.capability.label
  | .namespaced => True
  | .cluster => True

private theorem PinsKind.asksFor (pins : requirement.PinsKind)
    (planned : Lookup.plan requester requirement = .ok lookup) :
    lookup.AsksFor requirement.capability := by
  cases lookup with
  | byName namespaceName name =>
      rcases Lookup.plan_eq_byName_iff.mp planned with ⟨dedicated, _⟩ | ⟨specified, target⟩
      · simp only [PinsKind, dedicated] at pins
      · simp only [PinsKind, specified] at pins
        have nowhere : requirement.specified.bind (·.target? requester.namespaceName) = none := by
          rw [Option.bind_eq_none_iff] at pins ⊢
          intro reference isReference
          rw [Reference.target?, pins reference isReference, Option.map_none]
        simp only [Lookup.specifiedTarget, nowhere] at target
        cases target
  | byLabels namespaceName? labels =>
      rcases Lookup.plan_eq_byLabels_iff.mp planned with
        ⟨labeled, selects, _, isSelector⟩ | ⟨_, _, isShared⟩ | ⟨_, _, isShared⟩
      · simp only [PinsKind, labeled] at pins
        rw [isSelector]
        exact pins selects
      · rw [isShared]
        exact Lookup.asksFor_sharedLabels _ requirement
      · rw [isShared]
        exact Lookup.asksFor_sharedLabels _ requirement

/-- For a requester in a namespace every other requirement has a lookup that does not ask for its
kind. -/
theorem pinsKind_of_plan (housed : requester.namespaceName ≠ "")
    (asks : ∀ lookup, Lookup.plan requester requirement = .ok lookup →
      lookup.AsksFor requirement.capability) :
    requirement.PinsKind := by
  unfold PinsKind
  cases scope : requirement.effectiveScope with
  | dedicated => exact asks _ (Lookup.plan_eq_byName_iff.mpr (Or.inl ⟨scope, rfl, rfl⟩))
  | specified =>
      cases named : requirement.specified.bind Reference.name? with
      | none => rfl
      | some name =>
          obtain ⟨reference, isReference, isName⟩ := Option.bind_eq_some_iff.mp named
          let home := reference.namespaceName?.getD requester.namespaceName
          have homed : home ≠ "" := by
            show reference.namespaceName?.getD requester.namespaceName ≠ ""
            cases written : reference.namespaceName? with
            | none => exact housed
            | some namespaceName => exact (nonEmpty?_eq_some_iff.mp written).1
          have referred : requirement.specified.bind (·.target? requester.namespaceName) =
              some (home, name) := by
            rw [isReference, Option.bind_some, Reference.target?, isName, Option.map_some]
          have target : Lookup.specifiedTarget requester requirement = .ok (home, name) := by
            simp only [Lookup.specifiedTarget, referred, if_neg homed]
          exact (asks _ (Lookup.plan_eq_byName_iff.mpr (Or.inr ⟨scope, target⟩))).elim
  | labeled =>
      intro selects
      exact asks (.byLabels none requirement.selector)
        (Lookup.plan_eq_byLabels_iff.mpr (Or.inl ⟨scope, selects, rfl, rfl⟩))
  | namespaced => trivial
  | cluster => trivial

end Requirement

/-! ## Capabilities of another kind -/

def CapabilityKind.other : CapabilityKind → CapabilityKind
  | .dbms => .sso
  | .sso => .dbms

private theorem CapabilityKind.label_other (kind : CapabilityKind) : kind.other.label ≠ kind.label := by
  cases kind with
  | dbms => decide
  | sso => decide

/-- A capability with the labels that one for a requirement has, and that serves. -/
def Capability.served (namespaceName name : String) (requirement : Requirement) : Capability where
  metadata :=
    { name := some name
      namespaceName := some namespaceName
      labels := some (Placement.labels requirement) }
  spec := requirement
  status := some (.serving "service")

namespace Capability

variable {namespaceName name : String} {requirement : Requirement}

@[simp]
theorem kindLabel_served :
    (served namespaceName name requirement).kindLabel? = some requirement.capability.label :=
  Placement.get?_kindLabel_labels requirement

/-- Validation does not look at the kind. -/
theorem validate_served (kind : CapabilityKind) :
    (served namespaceName name { requirement with capability := kind }).validate requirement =
      .ok () := by
  rw [validate_eq_ok_iff]
  constructor
  · exact Placement.get?_scopeLabel_labels { requirement with capability := kind }
  · intro implementation required
    have alsoRequired : ({ requirement with capability := kind } : Requirement).implementation =
        some implementation := required
    exact Placement.get?_implementationLabel_labels alsoRequired

theorem ofCapability_served (housed : namespaceName ≠ "") :
    ∃ result, ProvisionResult.ofCapability (served namespaceName name requirement) = .ok result ∧
      result.capability = served namespaceName name requirement :=
  ProvisionResult.ofCapability_of_serves (served namespaceName name requirement)
    (CapabilityStatus.serves_serving (by decide)) housed

end Capability

namespace Provision

private theorem provide_of_firstIn {others : Store Capability → Store Capability → Prop}
    {operatorNamespace : String} {serial : Serial} {requester : Requester}
    {requirement : Requirement} {timeout : Duration} {lookup : Lookup} {store : Store Capability}
    {capability : Capability} {result : ProvisionResult}
    (planned : Lookup.plan requester requirement = .ok lookup)
    (isFirst : lookup.firstIn store = some capability)
    (valid : capability.validate requirement = .ok ())
    (given : ProvisionResult.ofCapability capability = .ok result) :
    (provide operatorNamespace serial requester requirement timeout).EndsWith (Answered others)
      ⟨store, []⟩ (.ok result) ⟨store, []⟩ := by
  obtain ⟨answer, looked, outcome⟩ := answered_lookup ⟨store, []⟩ lookup
  have terminal := Capability.isTerminal_of_successful
    (ProvisionResult.ofCapability_eq_ok_iff.mp given).1
  exact CallWay.endsWith planned
    (.found looked (outcome.trans (congrArg Except.ok isFirst)) (.settled valid terminal given))

/-- Under the name looked up there may be a capability of the other kind, which is handed out. -/
theorem provide_impostor {requester : Requester} {requirement : Requirement}
    {namespaceName name : String} (housed : namespaceName ≠ "")
    (planned : Lookup.plan requester requirement = .ok (.byName namespaceName name)) :
    ∃ store result, (provide "team" 0 requester requirement ⟨0⟩).EndsWith (Answered Grows)
        ⟨store, []⟩ (.ok result) ⟨store, []⟩ ∧
      result.capability.kindLabel? = some requirement.capability.other.label := by
  let impostor := Capability.served namespaceName name
    { requirement with capability := requirement.capability.other }
  have isFirst : (Lookup.byName namespaceName name).firstIn (Store.empty.put impostor) =
      some impostor := by
    rw [Lookup.firstIn_byName, Store.find?_put]
    exact if_pos rfl
  obtain ⟨result, given, isImpostor⟩ := Capability.ofCapability_served housed
  refine ⟨_, result, provide_of_firstIn planned isFirst (Capability.validate_served _) given, ?_⟩
  rw [isImpostor]
  exact Capability.kindLabel_served

/-! ## The kind of what is provided -/

variable {operatorNamespace : String} {serial : Serial} {requester : Requester}
  {requirement : Requirement} {timeout : Duration} {store : Store Capability}
  {result : ProvisionResult} {finish : History}

theorem kind_of_provide (pins : requirement.PinsKind)
    (run : (provide operatorNamespace serial requester requirement timeout).EndsWith
      (Answered Grows) ⟨store, []⟩ (.ok result) finish) :
    result.capability.kindLabel? = some requirement.capability.label := by
  obtain ⟨lookup, capability, planned, given, held, origin⟩ := origin_of_provide run
  obtain ⟨_, _, _, _, _, _, rfl⟩ := ProvisionResult.ofCapability_eq_ok_iff.mp given
  exact (pins.asksFor planned).kindLabel (origin.matches (steady_of_run run).labelsKept held)

private theorem pinsKind_of_provide
    (ofKind : ∀ operatorNamespace serial requester timeout store result finish,
      (provide operatorNamespace serial requester requirement timeout).EndsWith (Answered Grows)
          ⟨store, []⟩ (.ok result) finish →
        result.capability.kindLabel? = some requirement.capability.label) :
    requirement.PinsKind := by
  have housed : (⟨"shop", "team"⟩ : Requester).namespaceName ≠ "" := by decide
  apply Requirement.pinsKind_of_plan housed
  intro lookup planned
  cases lookup with
  | byName namespaceName name =>
      have homed : namespaceName ≠ "" := Lookup.housed_of_plan housed planned
      obtain ⟨store, result, run, isOther⟩ := provide_impostor homed planned
      have same := (ofKind _ _ _ _ _ _ _ run).symm.trans isOther
      exact absurd (Option.some.inj same).symm (CapabilityKind.label_other _)
  | byLabels namespaceName? labels =>
      obtain ⟨result, finish, run, isBystander⟩ := provide_bystander requirement planned
      have ofBystander := ofKind _ _ _ _ _ _ _ run
      rw [isBystander] at ofBystander
      exact ofBystander

/-- In a quiet cluster the kind is that of what the lookup found in the beginning, and the kind
required where it found nothing. -/
theorem kind_iff_of_quiet
    (run : (provide operatorNamespace serial requester requirement timeout).EndsWith
      (Answered Concludes) ⟨store, []⟩ (.ok result) finish) :
    ∃ lookup, Lookup.plan requester requirement = .ok lookup ∧
      (result.capability.kindLabel? = some requirement.capability.label ↔
        ∀ found, lookup.firstIn store = some found →
          found.kindLabel? = some requirement.capability.label) := by
  obtain ⟨lookup, capability, planned, given, _, origin⟩ := course_of_provide run
  obtain ⟨_, _, _, _, _, _, rfl⟩ := ProvisionResult.ofCapability_eq_ok_iff.mp given
  refine ⟨lookup, planned, ?_⟩
  rcases origin with ⟨found, isFirst, _, same⟩ | ⟨missed, defaults, built, placed, same⟩
  · have sameKind : capability.kindLabel? = found.kindLabel? := by
      rw [Capability.kindLabel?, Capability.label?, same.2, Capability.kindLabel?,
        Capability.label?]
    simp only [isFirst, Option.some.injEq, forall_eq', sameKind]
  · have ofKind : capability.kindLabel? = some requirement.capability.label := by
      rw [Capability.kindLabel?, Capability.label?, same.2, Placement.labels_of_build placed,
        Placement.get?_kindLabel_labels]
    simp only [missed, ofKind, reduceCtorEq, false_implies, implies_true]

/-- While others create capabilities and controllers report on them, whatever is handed out is of
the kind required exactly for the requirements whose lookup asks for the kind.  In a quiet cluster it
is for any requirement, unless the lookup finds something of another kind in the beginning. -/
theorem provide_ofKind_iff (requirement : Requirement) :
    ((∀ operatorNamespace serial requester timeout store result finish,
      (provide operatorNamespace serial requester requirement timeout).EndsWith (Answered Grows)
          ⟨store, []⟩ (.ok result) finish →
        result.capability.kindLabel? = some requirement.capability.label) ↔
      requirement.PinsKind) ∧
    ∀ operatorNamespace serial requester timeout store result finish,
      (provide operatorNamespace serial requester requirement timeout).EndsWith
          (Answered Concludes) ⟨store, []⟩ (.ok result) finish →
        ∃ lookup, Lookup.plan requester requirement = .ok lookup ∧
          (result.capability.kindLabel? = some requirement.capability.label ↔
            ∀ found, lookup.firstIn store = some found →
              found.kindLabel? = some requirement.capability.label) := by
  refine ⟨⟨pinsKind_of_provide, ?_⟩, ?_⟩
  · intro pins operatorNamespace serial requester timeout store result finish run
    exact kind_of_provide pins run
  · intro operatorNamespace serial requester timeout store result finish run
    exact kind_iff_of_quiet run

/-- Where there is nothing, a shop that asks for a database gets one. -/
theorem provide_ofKind_shop :
    ∃ result finish,
      (provide "operators" 0 ⟨"shop", "team"⟩ { capability := .dbms } ⟨0⟩).EndsWith
        (Answered Concludes) ⟨.empty, []⟩ (.ok result) finish ∧
      result.capability.kindLabel? = some "dbms" := by
  obtain ⟨result, finish, run⟩ := provide_shop
  obtain ⟨lookup, _, ofKind⟩ := (provide_ofKind_iff _).2 _ _ _ _ _ _ _ run
  refine ⟨result, finish, run, ofKind.mpr ?_⟩
  intro found isFirst
  have missed : lookup.firstIn .empty = none := rfl
  rw [missed] at isFirst
  cases isFirst

/-! ## A selector that does not name the kind -/

/-- Any capability of the payments team, which should be a database. -/
def paymentsDatabase : Requirement where
  capability := .dbms
  scope := some .labeled
  selector := StringMap.empty.insert "team" "payments"

/-- The identity provider and the database of the team. -/
def paymentsStore : Store Capability :=
  .ofList
    [.served "retail" "identity" { paymentsDatabase with capability := .sso },
      .served "retail" "orders" paymentsDatabase]

/-- Asking for a database, the team is handed its identity provider. -/
theorem provide_identity :
    ∃ result, (provide "operators" 0 ⟨"shop", "retail"⟩ paymentsDatabase ⟨0⟩).EndsWith
        (Answered fun _ _ => False) ⟨paymentsStore, []⟩ (.ok result) ⟨paymentsStore, []⟩ ∧
      result.capability.kindLabel? ≠ some paymentsDatabase.capability.label := by
  have isFirst : (Lookup.byLabels none paymentsDatabase.selector).firstIn paymentsStore =
      some (.served "retail" "identity" { paymentsDatabase with capability := .sso }) := by
    decide
  have housed : "retail" ≠ "" := by decide
  obtain ⟨result, given, isIdentity⟩ := Capability.ofCapability_served housed
  refine ⟨result, provide_of_firstIn rfl isFirst (Capability.validate_served .sso) given, ?_⟩
  rw [isIdentity, Capability.kindLabel_served]
  decide

end Provision

end Provisioning
