import Provisioning.Proofs.QuietCluster
import Provisioning.Proofs.Vacancy

/-!
# Providing again

What was provided once in a quiet cluster is provided again, by the lookup alone: the capability
that the first call handed out is the one that the same lookup finds, it is valid, and it is settled.
Main statement: `provide_again`.
-/

namespace Provisioning

open ClusterObject

namespace Provision

variable {operatorNamespace : String} {serial : Serial} {requester : Requester}
  {requirement : Requirement} {timeout : Duration} {lookup : Lookup}

/-- What a lookup finds valid and settled is handed out after the lookup. -/
theorem goes_of_firstIn {store : Store Capability} {capability : Capability}
    {result : ProvisionResult} {defaults : Defaults}
    (planned : Lookup.plan requester requirement = .ok lookup)
    (isFirst : lookup.firstIn store = some capability)
    (valid : capability.validate requirement = .ok ())
    (given : ProvisionResult.ofCapability capability = .ok result) :
    (∃ answer, (provide operatorNamespace serial requester requirement timeout).Goes
        (Replies defaults) store [⟨lookup.request, answer⟩] (.done (.ok result)) store) ∧
      ∀ exchanges left after,
        (provide operatorNamespace serial requester requirement timeout).Goes (Replies defaults)
            store exchanges left after →
          after = store ∧
            (exchanges = [] ∨
              ∃ answer, exchanges = [⟨lookup.request, answer⟩] ∧ left = .done (.ok result)) := by
  have terminal := Capability.isTerminal_of_successful
    (ProvisionResult.ofCapability_eq_ok_iff.mp given).1
  have used : (useExisting requirement timeout capability).run = .done (.ok result) := by
    rw [run_useExisting]
    simp only [valid, terminal, if_true, given]
  rw [provide_eq_call _ _ _ _ _ _ planned]
  constructor
  · obtain ⟨answer, replied⟩ := lookup.exists_reply defaults store
    refine ⟨answer, .call replied ?_⟩
    rw [(Lookup.outcome_of_replies replied).1, isFirst]
    simp only [used]
    exact .still _ _
  · intro exchanges left after goes
    rcases Program.goes_call_iff.mp goes with
      ⟨nothing, _, unchanged⟩ | ⟨answer, _, rest, isAll, replied, ended⟩
    · exact ⟨unchanged, Or.inl nothing⟩
    · obtain ⟨outcome, rfl⟩ := Lookup.outcome_of_replies replied
      rw [outcome, isFirst] at ended
      simp only [used] at ended
      obtain ⟨isRest, isLeft, unchanged⟩ := Program.goes_done_iff.mp ended
      rw [isRest] at isAll
      exact ⟨unchanged, Or.inr ⟨answer, isAll, isLeft⟩⟩

/-- A second call for what was provided asks for the lookup only, changes nothing, and ends with the
same result. -/
theorem provide_again {store : Store Capability} {result : ProvisionResult} {finish : History}
    (run : (provide operatorNamespace serial requester requirement timeout).EndsWith
      (Answered Concludes) ⟨store, []⟩ (.ok result) finish)
    (laterNamespace : String) (laterSerial : Serial) (laterTimeout : Duration)
    (defaults : Defaults) :
    ∃ lookup, Lookup.plan requester requirement = .ok lookup ∧
      (∃ answer, (provide laterNamespace laterSerial requester requirement laterTimeout).Goes
          (Replies defaults) finish.now [⟨lookup.request, answer⟩] (.done (.ok result))
          finish.now) ∧
      ∀ exchanges left after,
        (provide laterNamespace laterSerial requester requirement laterTimeout).Goes
            (Replies defaults) finish.now exchanges left after →
          after = finish.now ∧
            (exchanges = [] ∨
              ∃ answer, exchanges = [⟨lookup.request, answer⟩] ∧ left = .done (.ok result)) := by
  obtain ⟨lookup, capability, planned, given, isFirst, origin⟩ := course_of_provide run
  have valid : capability.validate requirement = .ok () := by
    rcases origin with ⟨found, _, validFound, same⟩ | ⟨_, _, built, placed, same⟩
    · exact same.validate_iff.mpr validFound
    · exact same.validate_iff.mpr (Placement.validate_build placed)
  exact ⟨lookup, planned, goes_of_firstIn planned isFirst valid given⟩

/-- Where there is a vacancy, a first call can be answered so that it succeeds. -/
theorem provide_of_vacancy {store : Store Capability} {built : Capability} {defaults : Defaults}
    (vacancy : Vacancy requirement lookup built store)
    (planned : Lookup.plan requester requirement = .ok lookup)
    (placed : Placement.build requester requirement defaults operatorNamespace serial = .ok built)
    (inReach : timeout.seconds < Wait.clockReach) {status : CapabilityStatus}
    (serves : status.Serves) :
    ∃ result finish, (provide operatorNamespace serial requester requirement timeout).EndsWith
        (Answered Concludes) ⟨store, []⟩ (.ok result) finish ∧
      result.capability = { built with status := some status } ∧
      finish.now = store.put { built with status := some status } := by
  let ready : Capability := { built with status := some status }
  let start : History := ⟨store, []⟩
  let created := start.record (store.put built)
  let finish := created.record (store.put ready)
  obtain ⟨result, given, isReady⟩ :=
    ProvisionResult.ofCapability_of_serves built serves vacancy.housed
  have isVersion : ready.IsVersionOf built := Or.inr ⟨status, serves, rfl⟩
  have successful : ready.phase = .successful := serves.1
  have terminal := Capability.isTerminal_of_successful successful
  obtain ⟨answer, looked, missed⟩ := answered_lookup start lookup
  have made : Answered Concludes start (.create built) (.ok built) created :=
    ⟨start, .refl, Or.inl ⟨_, Store.create_eq_ok_iff.mpr ⟨vacancy.free, rfl⟩, rfl⟩⟩
  have concludes : Concludes (store.put built) (store.put ready) := by
    rw [← Store.put_put_of_key_eq store built ready rfl]
    exact .settled Store.mem_put_self vacancy.phase_built terminal ⟨rfl, rfl⟩
  have waited : Answered Concludes created (.awaitSettled built.home built.name timeout)
      (.met ready) finish :=
    answered_awaitSettled inReach (.single ⟨_, concludes, rfl⟩) Store.mem_put_self
      rfl terminal
  obtain ⟨lastAnswer, lookedAgain, found⟩ := answered_lookup finish lookup
  have awaits := AwaitWay.resolved waited (Capability.ne_failed_of_successful successful)
    lookedAgain (found.trans (congrArg Except.ok (vacancy.firstIn_put isVersion))) given
  exact ⟨result, finish, CallWay.endsWith planned
    (.missed looked (missed.trans (congrArg Except.ok vacancy.firstIn_initial))
      (.placed .refl placed (.created made awaits))), isReady, rfl⟩

/-- A database for a shop in a cluster that has none. -/
theorem provide_shop :
    ∃ result finish, (provide "operators" 0 ⟨"shop", "team"⟩ { capability := .dbms } ⟨0⟩).EndsWith
      (Answered Concludes) ⟨.empty, []⟩ (.ok result) finish := by
  have vacancy : Vacancy { capability := .dbms }
      (.byLabels (some "team") (Lookup.sharedLabels { capability := .dbms }))
      { metadata :=
          { name := some "default-dbms-in-namespace"
            namespaceName := some "team"
            labels := some (Placement.labels { capability := .dbms }) }
        spec := { capability := .dbms, scope := some .namespaced } } .empty :=
    { free := rfl
      unmatched _ member := nomatch member
      matched := by decide
      valid := by decide
      housed := by decide
      unsettled := rfl }
  have serves : (CapabilityStatus.serving "b").Serves := CapabilityStatus.serves_serving (by decide)
  have placed : Placement.build ⟨"shop", "team"⟩ { capability := .dbms } {} "operators" 0 = .ok _ :=
    rfl
  have inReach : (⟨0⟩ : Duration).seconds < Wait.clockReach := by decide
  obtain ⟨result, finish, run, _⟩ := provide_of_vacancy vacancy rfl placed inReach serves
  exact ⟨result, finish, run⟩

/-- The shop is provided with its database again. -/
theorem provide_again_shop :
    ∃ result finish,
      (provide "operators" 0 ⟨"shop", "team"⟩ { capability := .dbms } ⟨0⟩).EndsWith
        (Answered Concludes) ⟨.empty, []⟩ (.ok result) finish ∧
      ∃ (lookup : Lookup) (answer : lookup.request.Answer),
        (provide "operators" 1 ⟨"shop", "team"⟩ { capability := .dbms } ⟨0⟩).Goes (Replies {})
          finish.now [⟨lookup.request, answer⟩] (.done (.ok result)) finish.now := by
  obtain ⟨result, finish, run⟩ := provide_shop
  obtain ⟨lookup, _, ⟨answer, goes⟩, _⟩ := provide_again run "operators" 1 ⟨0⟩ {}
  exact ⟨result, finish, run, lookup, answer, goes⟩

end Provision

end Provisioning
