import Provisioning.Proofs.Interleaving
import Provisioning.Proofs.Ways

/-!
# Courses of a call

The other direction of the inversions: from what a call gets for its requests, the run that it takes
(`CallWay.endsWith`).  Where nobody acts, a lookup is answered with the first match of the store
(`answered_lookup`), and a wait with the capability once it is settled (`answered_awaitSettled`).
-/

namespace Provisioning

open ClusterObject

namespace Provision

theorem CallWay.endsWith {σ : Type}
    {answers : σ → (request : CapabilityCall) → request.Answer → σ → Prop}
    {operatorNamespace : String} {serial : Serial} {requester : Requester}
    {requirement : Requirement} {timeout : Duration} {lookup : Lookup} {start finish : σ}
    {exchanges : List Exchange} {outcome : Except ProvisioningError ProvisionResult}
    (planned : Lookup.plan requester requirement = .ok lookup)
    (way : CallWay answers operatorNamespace serial requester requirement timeout lookup start
      exchanges (.done outcome) finish) :
    (provide operatorNamespace serial requester requirement timeout).EndsWith answers start outcome
      finish :=
  Program.endsWith_iff_goes.mpr ⟨exchanges, way.goes planned⟩

variable {others : Store Capability → Store Capability → Prop} {history before after : History}

/-- Where nobody acts, a lookup finds the first match. -/
theorem answered_lookup (history : History) (lookup : Lookup) :
    ∃ answer, Answered others history lookup.request answer history ∧
      lookup.outcome answer = .ok (lookup.firstIn history.now) := by
  cases lookup with
  | byName namespaceName name =>
      refine ⟨.ok (history.now.find? ⟨namespaceName, name⟩), ⟨.refl, ?_⟩, ?_⟩
      · rintro _ ⟨⟩
        rfl
      · rw [Lookup.firstIn_byName]
        rfl
  | byLabels namespaceName? labels =>
      cases namespaceName? with
      | none =>
          refine ⟨.ok (history.now.everywhere labels), ⟨.refl, ?_⟩, rfl⟩
          rintro _ ⟨⟩
          exact .refl _
      | some namespaceName =>
          refine ⟨.ok (history.now.inNamespace namespaceName labels), ⟨.refl, ?_⟩, rfl⟩
          rintro _ ⟨⟩
          exact .refl _

/-- A wait reads the capability, once others have settled it. -/
theorem answered_awaitSettled {ready : Capability} {namespaceName name : String}
    {timeout : Duration} (inReach : timeout.seconds < Wait.clockReach)
    (passes : Passes others before after) (member : ready ∈ after.now.objects)
    (isNamed : key ready = ⟨namespaceName, name⟩) (terminal : ready.phase.isTerminal = true) :
    Answered others before (.awaitSettled namespaceName name timeout) (.met ready) after := by
  have deadline : Wait.deadline? ⟨0⟩ timeout = some (⟨0⟩ + timeout) := by
    have same : (⟨0⟩ + timeout : Duration) = timeout := by
      show (⟨0 + timeout.nanoseconds⟩ : Duration) = timeout
      rw [Nat.zero_add]
    rw [Wait.deadline?, same, if_pos inReach]
  have read : (after.now.located (.named namespaceName name)).find?
      (fun other => other.phase.isTerminal) = some ready := by
    have located : ready ∈ after.now.located (.named namespaceName name) :=
      List.mem_filter.mpr ⟨member, covers_named_iff.mpr isNamed⟩
    cases found : (after.now.located (.named namespaceName name)).find?
        (fun other => other.phase.isTerminal) with
    | none => simpa [terminal] using List.find?_eq_none.mp found ready located
    | some other =>
        obtain ⟨otherMember, covered⟩ := List.mem_filter.mp (List.mem_of_find?_eq_some found)
        have otherKey := covers_named_iff.mp covered
        rw [Store.eq_of_key_eq otherMember member (otherKey.trans isNamed.symm)]
  refine ⟨0, Program.endsWith_perform_bind_iff.mpr ⟨⟨0⟩, before, .refl, ?_⟩⟩
  simp only [deadline]
  refine Program.endsWith_perform_bind_iff.mpr
    ⟨.inTime (.ok (after.now.located (.named namespaceName name))), after, ⟨passes, ?_⟩, ?_⟩
  · rintro _ ⟨⟩
    exact .refl _
  · simp only [firstMeeting_pure, pure_bind, read]
    simp

end Provision

end Provisioning
