import Provisioning.Proofs.DefaultScope

/-!
# Capabilities that are masked by others

A lookup by labels can come across several capabilities, and a call goes by the first of them in the
order of their keys.  That one is validated, and no other: where it is of another scope or
implementation than required, the call is refused, also if there is a later one that it could use.

Main statement: with something usable in a quiet cluster, when a call is refused for the scope or
the implementation, and for which requirements it never is (`provide_mismatch_iff`).
-/

namespace Provisioning

open ClusterObject

/-! ## Something that comes first -/

/-- A capability of the same namespace as another one, with a name and labels of its own. -/
private def Capability.beside (capability : Capability) (name : String) (labels : Labels) : Capability :=
  { capability with
    metadata := { capability.metadata with name := some name, labels := some labels } }

private theorem Capability.matches_beside {namespaceName? : Option String} {labels carried : Labels}
    {capability : Capability} (name : String)
    (matched : (Lookup.byLabels namespaceName? labels).matchesCapability capability = true)
    (carries : carried.carries labels = true) :
    (Lookup.byLabels namespaceName? labels).matchesCapability (capability.beside name carried) =
      true := by
  cases namespaceName? with
  | none => exact carries
  | some namespaceName =>
      obtain ⟨atHome, _⟩ := Bool.and_eq_true_iff.mp matched
      exact Bool.and_eq_true_iff.mpr ⟨atHome, carries⟩

/-- With the labels of a lookup and no others, something can come before anything that the lookup
finds. -/
theorem Lookup.exists_masking {namespaceName? : Option String} {labels : Labels}
    {requirement : Requirement} {usable : Capability}
    (matched : (byLabels namespaceName? labels).matchesCapability usable = true)
    (valid : usable.validate requirement = .ok ()) :
    ∃ (store : Store Capability) (first later : Capability), later ∈ store.objects ∧
      (byLabels namespaceName? labels).matchesCapability later = true ∧
      later.validate requirement = .ok () ∧
      (byLabels namespaceName? labels).firstIn store = some first ∧ first.labels = labels := by
  let later := usable.beside "b" usable.labels
  let first := usable.beside "a" labels
  have laterMatched := Capability.matches_beside "b" matched (carries_of_matchesCapability matched)
  have firstMatched := Capability.matches_beside "a" matched (Labels.carries_self labels)
  have sameLabels : later.labels = usable.labels := rfl
  have laterValid := (Capability.validate_congr sameLabels).mpr valid
  have ordered : "a" < "b" := by decide
  have below : key first < key later := .inr ⟨rfl, ordered⟩
  refine ⟨(Store.empty.put later).put first, first, later, ?_, laterMatched, laterValid, ?_, rfl⟩
  · refine Store.mem_put_iff.mpr (.inr ⟨Store.mem_put_self, ?_⟩)
    exact (ObjectKey.ne_of_lt below).symm
  · refine firstIn_put_of_below firstMatched fun other member => ?_
    rcases Store.mem_put_iff.mp member with rfl | ⟨inEmpty, _⟩
    · exact below
    · cases inEmpty

/-! ## Calls that are refused -/

namespace Provision

variable {operatorNamespace : String} {serial : Serial} {requester : Requester}
  {requirement : Requirement} {timeout : Duration} {surroundings : Surroundings}
  {store finish : Store Capability} {lookup : Lookup} {exchanges : List Exchange}
  {ended : CapabilityProgram (Except ProvisioningError ProvisionResult)}
  {namespaceName? : Option String} {labels : Labels} {usable : Capability}

/-- A program has ended because a capability is of another scope or of another implementation. -/
def IsMismatch (ended : CapabilityProgram (Except ProvisioningError ProvisionResult)) : Prop :=
  ∃ error, ended = .done (.error error) ∧
    (error.kind = "ScopeMismatch" ∨ error.kind = "ImplementationMismatch")

private theorem not_isMismatch_of_plain (plain : EndsPlainly ended) : ¬ IsMismatch ended := by
  rintro ⟨error, rfl, scope | implementation⟩
  · exact plain.kind_of_error.1 scope
  · exact plain.kind_of_error.2 implementation

/-- With something usable in the cluster, a call is refused exactly if something before it in the
lookup is not valid. -/
theorem isMismatch_iff (planned : Lookup.plan requester requirement = .ok lookup)
    (member : usable ∈ store.objects) (matched : lookup.matchesCapability usable = true)
    (valid : usable.validate requirement = .ok ()) (isOver : IsOver ended)
    (goes : (provide operatorNamespace serial requester requirement timeout).Goes
      surroundings.Answers store exchanges ended finish) :
    IsMismatch ended ↔ ∃ first error, lookup.firstIn store = some first ∧
      key first < key usable ∧ first.validate requirement = .error error := by
  obtain ⟨first, isFirst, order⟩ := Lookup.exists_firstIn member matched
  cases verdict : first.validate requirement with
  | ok _ =>
      have plain := plain_of_valid_first planned isFirst verdict isOver goes
      refine iff_of_false (not_isMismatch_of_plain plain) ?_
      rintro ⟨other, error, alsoFirst, _, invalid⟩
      cases isFirst.symm.trans alsoFirst
      cases verdict.symm.trans invalid
  | error error =>
      obtain ⟨rfl, _⟩ := ended_of_invalid_first planned isFirst verdict isOver goes
      refine iff_of_true ⟨error, rfl, Capability.kind_of_validate verdict⟩
        ⟨first, error, isFirst, ?_, verdict⟩
      rcases order with rfl | before
      · cases verdict.symm.trans valid
      · exact before

/-- Where something usable can be found, no call of any cluster with something usable is refused for
the scope or the implementation, exactly for the requirements that pin labels. -/
theorem pinsLabels_iff_unmasked (operatorNamespace : String) (serial : Serial) (timeout : Duration)
    (surroundings : Surroundings)
    (planned : Lookup.plan requester requirement = .ok (.byLabels namespaceName? labels))
    (matched : (Lookup.byLabels namespaceName? labels).matchesCapability usable = true)
    (valid : usable.validate requirement = .ok ()) :
    requirement.PinsLabels ↔ ∀ (cluster : Store Capability) (other : Capability),
      other ∈ cluster.objects →
      (Lookup.byLabels namespaceName? labels).matchesCapability other = true →
      other.validate requirement = .ok () →
        ∀ exchanges ended finish,
          (provide operatorNamespace serial requester requirement timeout).Goes surroundings.Answers
            cluster exchanges ended finish → IsOver ended → ¬ IsMismatch ended := by
  constructor
  · intro pins cluster other member otherMatched otherValid exchanges ended finish goes isOver
    rw [isMismatch_iff planned member otherMatched otherValid isOver goes]
    rintro ⟨first, error, isFirst, _, invalid⟩
    have pinned := (Requirement.pinsLabels_iff_plan requester).mp pins _ _ planned
    have firstValid := Lookup.valid_of_pinnedBy pinned (Lookup.firstIn_eq_some_iff.mp isFirst).2.1
    cases firstValid.symm.trans invalid
  · intro unmasked
    obtain ⟨cluster, first, other, member, otherMatched, otherValid, isFirst, sameLabels⟩ :=
      Lookup.exists_masking matched valid
    refine (Requirement.pinsLabels_iff_plan requester).mpr fun _ otherLabels plans => ?_
    cases planned.symm.trans plans
    cases verdict : first.validate requirement with
    | ok _ => exact sameLabels ▸ Capability.validate_eq_ok_iff.mp verdict
    | error error =>
        obtain ⟨exchanges, goes⟩ := goes_of_invalid_first operatorNamespace serial timeout
          surroundings planned isFirst verdict
        exact absurd ⟨error, rfl, Capability.kind_of_validate verdict⟩
          (unmasked cluster other member otherMatched otherValid exchanges _ cluster goes trivial)

/-- While a quiet cluster has something usable among what a requirement looks up by labels, a call
is refused for the scope or the implementation exactly if something that is not valid comes first;
then every call is, for that capability, and creates nothing.  This happens in some cluster for
every requirement that does not pin labels, and in none for those that do. -/
theorem provide_mismatch_iff (operatorNamespace : String) (serial : Serial) (requester : Requester)
    (timeout : Duration) (surroundings : Surroundings)
    (planned : Lookup.plan requester requirement = .ok (.byLabels namespaceName? labels))
    (member : usable ∈ store.objects)
    (matched : (Lookup.byLabels namespaceName? labels).matchesCapability usable = true)
    (valid : usable.validate requirement = .ok ()) :
    (∀ exchanges ended finish,
      (provide operatorNamespace serial requester requirement timeout).Goes surroundings.Answers
          store exchanges ended finish → IsOver ended →
        (IsMismatch ended ↔ ∃ first error,
          (Lookup.byLabels namespaceName? labels).firstIn store = some first ∧
            key first < key usable ∧ first.validate requirement = .error error)) ∧
    (∀ first error, (Lookup.byLabels namespaceName? labels).firstIn store = some first →
      first.validate requirement = .error error →
        (∃ exchanges, (provide operatorNamespace serial requester requirement timeout).Goes
          surroundings.Answers store exchanges (.done (.error error)) store) ∧
        ∀ exchanges ended finish,
          (provide operatorNamespace serial requester requirement timeout).Goes surroundings.Answers
              store exchanges ended finish → IsOver ended →
            ended = .done (.error error) ∧ created exchanges = []) ∧
    (requirement.PinsLabels ↔ ∀ (cluster : Store Capability) (other : Capability),
      other ∈ cluster.objects →
      (Lookup.byLabels namespaceName? labels).matchesCapability other = true →
      other.validate requirement = .ok () →
        ∀ exchanges ended finish,
          (provide operatorNamespace serial requester requirement timeout).Goes surroundings.Answers
            cluster exchanges ended finish → IsOver ended → ¬ IsMismatch ended) := by
  refine ⟨?_, ?_, pinsLabels_iff_unmasked operatorNamespace serial timeout surroundings planned
    matched valid⟩
  · intro exchanges ended finish goes isOver
    exact isMismatch_iff planned member matched valid isOver goes
  · intro first error isFirst invalid
    refine ⟨goes_of_invalid_first operatorNamespace serial timeout surroundings planned isFirst
      invalid, ?_⟩
    intro exchanges ended finish goes isOver
    exact ended_of_invalid_first planned isFirst invalid isOver goes

/-- A shop that needs a database does not get the one of its namespace, because that of another
comes first. -/
theorem provide_mismatch_orders :
    ∃ exchanges error, (provide "operators" 0 ⟨"shop", "retail"⟩ { capability := .dbms } ⟨0⟩).Goes
        quietSurroundings.Answers (retailDatabases .dedicated .namespaced) exchanges
        (.done (.error error)) (retailDatabases .dedicated .namespaced) ∧
      error.kind = "ScopeMismatch" ∧ created exchanges = [] := by
  let shop : Requester := ⟨"shop", "retail"⟩
  let database : Requirement := { capability := .dbms }
  let analytics := Capability.served "retail" "analytics" { database with scope := some .dedicated }
  let orders := Capability.served "retail" "orders" database.inNamespace
  have isFirst : (Lookup.ofUnscoped shop database).firstIn
      (retailDatabases .dedicated .namespaced) = some analytics := by decide
  have member : orders ∈ (retailDatabases .dedicated .namespaced).objects := by decide
  have matched : (Lookup.ofUnscoped shop database).matchesCapability orders = true := by decide
  have valid : orders.validate database = .ok () := by decide
  have otherScope : analytics.scopeLabel? ≠ some database.effectiveScope.label := by decide
  obtain ⟨_, whenInvalid, _⟩ := provide_mismatch_iff "operators" 0 shop ⟨0⟩ quietSurroundings
    Lookup.plan_unscoped member matched valid
  obtain ⟨⟨exchanges, goes⟩, only⟩ :=
    whenInvalid analytics _ isFirst (Capability.validate_of_scopeLabel_ne otherScope)
  exact ⟨exchanges, _, goes, rfl, (only _ _ _ goes trivial).2⟩

/-! ## A database of another product -/

/-- A MySQL database of the payments team. -/
def paymentsMysql : Requirement :=
  { paymentsDatabase with implementation := some .mysql }

/-- The databases of the team, of which the second one is what is required. -/
def paymentsDatabases : Store Capability :=
  .ofList
    [.served "retail" "analytics" { paymentsDatabase with implementation := some .postgresql },
      .served "retail" "orders" paymentsMysql]

/-- The team's MySQL database is not handed out, because its PostgreSQL database comes first. -/
theorem provide_masked :
    Lookup.plan ⟨"shop", "retail"⟩ paymentsMysql = .ok (.byLabels none paymentsMysql.selector) ∧
    (∃ usable ∈ paymentsDatabases.objects,
      (Lookup.byLabels none paymentsMysql.selector).matchesCapability usable = true ∧
        usable.validate paymentsMysql = .ok ()) ∧
    ∃ exchanges error, (provide "operators" 0 ⟨"shop", "retail"⟩ paymentsMysql ⟨0⟩).Goes
        quietSurroundings.Answers paymentsDatabases exchanges (.done (.error error))
        paymentsDatabases ∧
      error.kind = "ImplementationMismatch" := by
  let analytics := Capability.served "retail" "analytics"
    { paymentsDatabase with implementation := some .postgresql }
  let orders := Capability.served "retail" "orders" paymentsMysql
  have planned : Lookup.plan ⟨"shop", "retail"⟩ paymentsMysql =
      .ok (.byLabels none paymentsMysql.selector) := by decide
  have isFirst : (Lookup.byLabels none paymentsMysql.selector).firstIn paymentsDatabases =
      some analytics := by decide
  have member : orders ∈ paymentsDatabases.objects := by decide
  have matched : (Lookup.byLabels none paymentsMysql.selector).matchesCapability orders = true := by
    decide
  have valid : orders.validate paymentsMysql = .ok () := by decide
  have invalid : analytics.validate paymentsMysql =
      .error (.implementationMismatch "retail/analytics" "mysql" (some "postgresql")) := by decide
  obtain ⟨exchanges, goes⟩ :=
    goes_of_invalid_first "operators" 0 ⟨0⟩ quietSurroundings planned isFirst invalid
  exact ⟨planned, ⟨orders, member, matched, valid⟩, exchanges, _, goes, rfl⟩

end Provision

end Provisioning
