import Provisioning.Proofs.Matching
import Provisioning.Proofs.Ways

/-!
# How a call ends

Whatever is answered, there are few ways for a call to end.  It ends plainly, with the result for a
capability or because a wait or the server failed; or because a capability is not valid, or cannot be
read although its place is taken, or is not found by the lookup after the wait.

Main statement: `ends_of_provide`.
-/

namespace Provisioning

namespace Provision

/-- A call ends with the result for a capability, or because of a wait or of the server. -/
inductive EndsPlainly : CapabilityProgram (Except ProvisioningError ProvisionResult) → Prop where
  | result (capability : Capability) :
      EndsPlainly (.done (ProvisionResult.ofCapability capability))
  | unwaited (error : WaitError) : EndsPlainly (.done (.error (.ofWait error)))
  | failed (failure : Failure) : EndsPlainly (.done (.error (.failed failure)))
  | broken (message : String) : EndsPlainly (.abort message)

/-- A plain end is not about the labels of a capability. -/
theorem EndsPlainly.kind_of_error {error : ProvisioningError}
    (plain : EndsPlainly (.done (.error error))) :
    error.kind ≠ "ScopeMismatch" ∧ error.kind ≠ "ImplementationMismatch" := by
  generalize isEnd : Program.done (Except.error error) = ended at plain
  cases plain with
  | broken message => cases isEnd
  | failed failure =>
      cases isEnd
      simp [ProvisioningError.kind]
  | unwaited waitError =>
      cases isEnd
      cases waitError with
      | timedOut locator elapsed => simp [ProvisioningError.ofWait, ProvisioningError.kind]
      | subscriptionFailed locator message =>
          simp [ProvisioningError.ofWait, ProvisioningError.kind]
      | unreadable locator source => simp [ProvisioningError.ofWait, ProvisioningError.kind]
  | result capability =>
      injection isEnd with given
      rcases ProvisionResult.kind_of_ofCapability given.symm with inconsistent | failed
      · rw [inconsistent]
        decide
      · rw [failed]
        decide

section Endings

variable {σ : Type} (answers : σ → (request : CapabilityCall) → request.Answer → σ → Prop)
  (requirement : Requirement) (lookup : Lookup) (finish : σ)

/-- A call ends because the lookup after its wait finds nothing. -/
inductive Misses : CapabilityProgram (Except ProvisioningError ProvisionResult) → Prop where
  | intro {start : σ} {answer : lookup.request.Answer} (target : Capability)
      (answered : answers start lookup.request answer finish)
      (missed : lookup.outcome answer = .ok none) :
      Misses (.done (.error (.inconsistent target.home target.name
        "provisioned capability is not found by its lookup")))

inductive Ends : CapabilityProgram (Except ProvisioningError ProvisionResult) → Prop where
  | plain {ended : CapabilityProgram (Except ProvisioningError ProvisionResult)}
      (plain : EndsPlainly ended) : Ends ended
  | invalid {capability : Capability} {error : ProvisioningError}
      (invalid : capability.validate requirement = .error error) : Ends (.done (.error error))
  | unreadable (capability : Capability) :
      Ends (.done (.error (.inconsistent capability.home capability.name
        "create reported the name taken but it cannot be read")))
  | missed {ended : CapabilityProgram (Except ProvisioningError ProvisionResult)}
      (misses : Misses answers lookup finish ended) : Ends ended

end Endings

variable {σ : Type} {answers : σ → (request : CapabilityCall) → request.Answer → σ → Prop}
  {operatorNamespace : String} {serial : Serial} {requester : Requester}
  {requirement : Requirement} {timeout : Duration} {lookup : Lookup} {start finish : σ}
  {exchanges : List Exchange}
  {ended : CapabilityProgram (Except ProvisioningError ProvisionResult)}

private theorem UseWay.plain_or_invalid {found : Capability}
    (way : UseWay answers requirement timeout found start exchanges ended finish) :
    EndsPlainly ended ∨
      ∃ error, found.validate requirement = .error error ∧ ended = .done (.error error) := by
  cases way with
  | invalid invalid => exact Or.inr ⟨_, invalid, rfl⟩
  | settled _ _ given => exact Or.inl (given ▸ .result found)
  | awaited _ _ _ given => exact Or.inl (given ▸ .result _)
  | givenUp => exact Or.inl (.unwaited _)
  | broken => exact Or.inl (.broken _)

theorem UseWay.plain {found : Capability} (valid : found.validate requirement = .ok ())
    (way : UseWay answers requirement timeout found start exchanges ended finish) :
    EndsPlainly ended := by
  rcases way.plain_or_invalid with plain | ⟨_, invalid, _⟩
  · exact plain
  · cases valid.symm.trans invalid

theorem AwaitWay.plain_or_misses {target : Capability}
    (way : AwaitWay answers timeout lookup target start exchanges ended finish) :
    EndsPlainly ended ∨ Misses answers lookup finish ended := by
  cases way with
  | givenUp => exact Or.inl (.unwaited _)
  | broken => exact Or.inl (.broken _)
  | failed _ _ given => exact Or.inl (given ▸ .result _)
  | unread => exact Or.inl (.failed _)
  | missed _ _ answered missed => exact Or.inr (.intro target answered missed)
  | resolved _ _ _ _ given => exact Or.inl (given ▸ .result _)

theorem AwaitWay.ends {target : Capability}
    (way : AwaitWay answers timeout lookup target start exchanges ended finish) :
    Ends answers requirement lookup finish ended := by
  rcases way.plain_or_misses with plain | misses
  · exact .plain plain
  · exact .missed misses

theorem CreateWay.ends {built : Capability}
    (way : CreateWay answers requirement timeout lookup built start exchanges ended finish) :
    Ends answers requirement lookup finish ended := by
  cases way with
  | created _ awaits => exact awaits.ends
  | refused => exact .plain (.failed _)
  | unread => exact .plain (.failed _)
  | vanished => exact .unreadable built
  | clashed _ _ _ invalid => exact .invalid invalid
  | adopted _ _ _ _ awaits => exact awaits.ends

theorem UseWay.ends {found : Capability}
    (way : UseWay answers requirement timeout found start exchanges ended finish) :
    Ends answers requirement lookup finish ended := by
  rcases way.plain_or_invalid with plain | ⟨_, invalid, rfl⟩
  · exact .plain plain
  · exact .invalid invalid

theorem NewWay.ends (planned : Lookup.plan requester requirement = .ok lookup)
    (way : NewWay answers operatorNamespace serial requester requirement timeout lookup start
      exchanges ended finish) : Ends answers requirement lookup finish ended := by
  cases way with
  | unloaded => exact .plain (.failed _)
  | @unplaced defaults _ _ _ unplaced =>
      obtain ⟨_, placed⟩ := Placement.exists_build planned defaults operatorNamespace serial
      cases placed.symm.trans unplaced
  | placed _ _ creates => exact creates.ends

/-- Once its lookup is planned, a call ends in one of these ways. -/
theorem ends_of_provide (planned : Lookup.plan requester requirement = .ok lookup)
    (isOver : IsOver ended)
    (goes : (provide operatorNamespace serial requester requirement timeout).Goes answers start
      exchanges ended finish) : Ends answers requirement lookup finish ended := by
  cases (callWay_iff planned isOver).mpr goes with
  | unread => exact .plain (.failed _)
  | found _ _ uses => exact uses.ends
  | missed _ _ provides => exact provides.ends planned

end Provision

end Provisioning
