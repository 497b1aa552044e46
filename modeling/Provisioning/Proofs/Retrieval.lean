import Provisioning.Proofs.Endings
import Provisioning.Proofs.LabeledCallers
import Provisioning.Proofs.QuietCluster
import Provisioning.Proofs.Validity

/-!
# What is created is found again

The lookup of a requirement and the capability that is built for it come from two readings of the
same requirement.  They fit together in every scope but the labeled one, where the user's selector is
looked up as it is, while the engine's labels go over it in what is built.

Main statement: the lookup asks for what is built exactly where the selector agrees with the engine's
labels, and then no call loses sight of what it created (`provide_retrieval`).
-/

namespace Provisioning

open ClusterObject

/-! ## Creations in a run -/

section Creations

variable {others : Store Capability → Store Capability → Prop} {before after : History} {α : Type}
  {program left : CapabilityProgram α}
  {exchanges : List (Program.Exchange CapabilityCall CapabilityCall.Answer)}

private theorem held_of_created {built written : Capability}
    (goes : program.Goes (Answered others) before exchanges left after)
    (created : ⟨.create built, .ok written⟩ ∈ exchanges) : after.Held built := by
  induction goes with
  | still program state => cases created
  | @call request next answer start middle finish exchanges left answered rest
      inductionHypothesis =>
      rcases List.mem_cons.mp created with isFirst | inRest
      · cases isFirst
        obtain ⟨earlier, _, ⟨store, made, isMiddle⟩ | ⟨_, isRefusal, _⟩⟩ := answered
        · obtain ⟨_, isStore⟩ := Store.create_eq_ok_iff.mp made
          apply (keeps_held built).goes rest
          rw [isMiddle, isStore]
          exact History.held_now Store.mem_put_self
        · cases isRefusal
      · exact inductionHypothesis inRest

end Creations

/-! ## Calls that lose sight of a capability -/

namespace Provision

/-- The call waited for a capability that its lookup then did not find. -/
def IsMiss (outcome : Except ProvisioningError ProvisionResult) : Prop :=
  ∃ namespaceName name, outcome =
    .error (.inconsistent namespaceName name "provisioned capability is not found by its lookup")

private theorem not_isMiss_validate {requirement : Requirement} {capability : Capability}
    {error : ProvisioningError} (invalid : capability.validate requirement = .error error) :
    ¬ IsMiss (.error error) := by
  rintro ⟨namespaceName, name, missed⟩
  cases missed
  rcases Capability.kind_of_validate invalid with isScope | isImplementation
  · simp [ProvisioningError.kind] at isScope
  · simp [ProvisioningError.kind] at isImplementation

variable {others : Store Capability → Store Capability → Prop} {before after : History}
  {operatorNamespace : String} {serial : Serial} {requester : Requester}
  {requirement : Requirement} {timeout : Duration} {lookup : Lookup}
  {outcome : Except ProvisioningError ProvisionResult}

private theorem not_isMiss_of_plain (plain : EndsPlainly (.done outcome)) : ¬ IsMiss outcome := by
  rintro ⟨namespaceName, name, missed⟩
  cases plain with
  | failed failure => cases missed
  | unwaited error =>
      cases error with
      | timedOut locator elapsed => cases missed
      | subscriptionFailed locator message => cases missed
      | unreadable locator source => cases missed
  | result capability =>
      rcases ProvisionResult.error_of_ofCapability missed with
        ⟨message, listed, same⟩ | ⟨_, same⟩
      · cases same
        simp at listed
      · cases same

/-- A call that loses sight of a capability ends in a cluster where its lookup finds nothing. -/
theorem firstIn_of_miss {exchanges : List Exchange}
    (planned : Lookup.plan requester requirement = .ok lookup)
    (goes : (provide operatorNamespace serial requester requirement timeout).Goes (Answered others)
      before exchanges (.done outcome) after)
    (miss : IsMiss outcome) : lookup.firstIn after.now = none := by
  have isOver : IsOver (.done outcome) := trivial
  cases ends_of_provide planned isOver goes with
  | plain plain => exact absurd miss (not_isMiss_of_plain plain)
  | invalid invalid => exact absurd miss (not_isMiss_validate invalid)
  | unreadable capability =>
      obtain ⟨_, _, missed⟩ := miss
      simp at missed
  | missed misses =>
      obtain ⟨target, answered, missed⟩ := misses
      exact (firstIn_of_answered answered missed).2.symm

/-! ## Lookups and what is built for them -/

private theorem firstIn_ne_none_of_created {store : Store Capability} {built written : Capability}
    {program left : CapabilityProgram (Except ProvisioningError ProvisionResult)}
    {exchanges : List (Program.Exchange CapabilityCall CapabilityCall.Answer)}
    (matched : lookup.matchesCapability built = true)
    (goes : program.Goes (Answered Grows) ⟨store, []⟩ exchanges left after)
    (created : ⟨.create built, .ok written⟩ ∈ exchanges) : lookup.firstIn after.now ≠ none := by
  have steady : after.Steady := keeps_steady.goes goes (steady_start store)
  obtain ⟨present, member, sameKey, sameLabels⟩ := steady built (held_of_created goes created)
  rw [← Lookup.matchesCapability_congr sameKey sameLabels] at matched
  obtain ⟨first, isFirst, _⟩ := Lookup.exists_firstIn member matched
  rw [isFirst]
  exact Option.some_ne_none first

/-- Where a requirement can be looked up, something can be built for it, and the lookup asks for it
exactly where the selector agrees with the engine's labels.  A call that created it then finds it
again, as long as nothing is removed and no labels change. -/
theorem provide_retrieval (planned : Lookup.plan requester requirement = .ok lookup)
    (defaults : Defaults) (operatorNamespace : String) (serial : Serial) :
    ∃ built,
      Placement.build requester requirement defaults operatorNamespace serial = .ok built ∧
      (lookup.matchesCapability built = true ↔
        (requirement.effectiveScope = .labeled → requirement.SelectorAgrees)) ∧
      ((requirement.effectiveScope = .labeled → requirement.SelectorAgrees) →
        ∀ timeout store exchanges written outcome finish,
          (provide operatorNamespace serial requester requirement timeout).Goes (Answered Grows)
              ⟨store, []⟩ exchanges (.done outcome) finish →
            ⟨.create built, .ok written⟩ ∈ exchanges → ¬ IsMiss outcome) := by
  obtain ⟨built, placed⟩ := Placement.exists_build planned defaults operatorNamespace serial
  have matched := Placement.matchesCapability_build_iff planned placed
  refine ⟨built, placed, matched, ?_⟩
  intro agrees timeout store exchanges written outcome finish goes created miss
  exact firstIn_ne_none_of_created (matched.mpr agrees) goes created
    (firstIn_of_miss planned goes miss)

/-- A database that is asked for by a selector of the team's own. -/
theorem provide_retrieval_payments :
    ∃ built,
      Placement.build ⟨"shop", "retail"⟩
        { capability := .dbms, scope := some .labeled,
          selector := StringMap.empty.insert "team" "payments" } {} "operators" 7 = .ok built ∧
      (Lookup.byLabels none (StringMap.empty.insert "team" "payments")).matchesCapability built =
        true := by
  have plain : ∀ name ∈ Conventions.engineLabels,
      (StringMap.empty.insert "team" "payments").get? name = none := by
    decide
  have planned : Lookup.plan ⟨"shop", "retail"⟩
      { capability := .dbms, scope := some .labeled,
        selector := StringMap.empty.insert "team" "payments" } =
      .ok (.byLabels none (StringMap.empty.insert "team" "payments")) := rfl
  obtain ⟨built, placed, matched, _⟩ := provide_retrieval planned {} "operators" 7
  exact ⟨built, placed, matched.mpr fun _ => Placement.selectorAgrees_of_plain plain⟩

/-! ## A selector that the engine overrides -/

/-- A database whose selector asks for the label of an identity provider. -/
def mislabeledDatabase : Requirement where
  capability := .dbms
  scope := some .labeled
  selector := StringMap.empty.insert Conventions.kindLabel "sso"

/-- The shop creates its database, and its lookup does not find it. -/
theorem provide_mislabeled :
    ∃ lookup built,
      Lookup.plan ⟨"shop", "retail"⟩ mislabeledDatabase = .ok lookup ∧
      Placement.build ⟨"shop", "retail"⟩ mislabeledDatabase {} "operators" 7 = .ok built ∧
      lookup.matchesCapability built = false ∧
      ∃ exchanges written outcome finish,
        (provide "operators" 7 ⟨"shop", "retail"⟩ mislabeledDatabase ⟨0⟩).Goes (Answered Concludes)
            ⟨.empty, []⟩ exchanges (.done outcome) finish ∧
          ⟨.create built, .ok written⟩ ∈ exchanges ∧ IsMiss outcome := by
  let built := Placement.ownCapability ⟨"shop", "retail"⟩ mislabeledDatabase 7
  let ready : Capability := { built with status := some (.serving "service") }
  let start : History := ⟨.empty, []⟩
  let created := start.record (Store.empty.put built)
  let finish := created.record ((Store.empty.put built).put ready)
  have absent : (Store.empty : Store Capability).everywhere mislabeledDatabase.selector = [] := rfl
  have lost : finish.now.everywhere mislabeledDatabase.selector = [] := by decide
  have concludes : Concludes created.now finish.now :=
    .settled Store.mem_put_self rfl rfl ⟨rfl, rfl⟩
  have waited : Answered Concludes created (.awaitSettled built.home built.name ⟨0⟩) (.met ready)
      finish :=
    answered_awaitSettled (by decide) (.single ⟨_, concludes, rfl⟩)
      Store.mem_put_self rfl rfl
  have listed : ∀ history : History, history.now.everywhere mislabeledDatabase.selector = [] →
      Answered Concludes history (.listAll mislabeledDatabase.selector) (.ok []) history := by
    intro history nothing
    refine ⟨.refl, ?_⟩
    rintro _ ⟨⟩
    rw [nothing]
  have made : Answered Concludes start (.create built) (.ok built) created :=
    ⟨start, .refl, Or.inl ⟨_, Store.create_eq_ok_iff.mpr ⟨rfl, rfl⟩, rfl⟩⟩
  have goes : (provide "operators" 7 ⟨"shop", "retail"⟩ mislabeledDatabase ⟨0⟩).Goes
      (Answered Concludes) start
      [⟨.listAll mislabeledDatabase.selector, .ok []⟩, ⟨.loadDefaults, .ok {}⟩,
        ⟨.create built, .ok built⟩, ⟨.awaitSettled built.home built.name ⟨0⟩, .met ready⟩,
        ⟨.listAll mislabeledDatabase.selector, .ok []⟩]
      (.done (.error (.inconsistent built.home built.name
        "provisioned capability is not found by its lookup"))) finish :=
    .call (listed start absent) (.call .refl (.call made (.call waited (.call (listed finish lost)
      (.still _ _)))))
  exact ⟨.byLabels none mislabeledDatabase.selector, built, rfl, Placement.build_labeled rfl _ _,
    by decide, _, built, _, finish, goes,
    List.mem_cons_of_mem _ (List.mem_cons_of_mem _ List.mem_cons_self), _, _, rfl⟩

end Provision

end Provisioning
