import Provisioning.Provision.Result

/-!
# Capabilities that serve

When a capability gives a result, and what a consumer can rely on in a result.
-/

namespace Provisioning

/-! ## The status of a capability that serves -/

/-- A status that says that a capability can be used, and by which service. -/
def CapabilityStatus.Serves (status : CapabilityStatus) : Prop :=
  status.phase = .successful ∧ ∃ server service, status.primaryServer? = some server ∧
    nonEmpty? server.serviceName = some service

/-- The status of a capability whose main server is one service. -/
def CapabilityStatus.serving (serviceName : String) : CapabilityStatus where
  phase := .successful
  servers := StringMap.empty.insert Conventions.mainServer { serviceName := some serviceName }

theorem CapabilityStatus.serves_serving {serviceName : String} (filled : serviceName ≠ "") :
    (serving serviceName).Serves :=
  ⟨rfl, _, serviceName, rfl, nonEmpty?_eq_some_iff.mpr ⟨filled, rfl⟩⟩

theorem Capability.isTerminal_of_successful {capability : Capability}
    (successful : capability.phase = .successful) : capability.phase.isTerminal = true := by
  rw [successful]
  rfl

theorem Capability.ne_failed_of_successful {capability : Capability}
    (successful : capability.phase = .successful) : capability.phase ≠ .failed := by
  rw [successful]
  decide

/-- A capability that serves gives a result. -/
theorem ProvisionResult.ofCapability_of_serves (capability : Capability)
    {status : CapabilityStatus} (serves : status.Serves) (housed : capability.home ≠ "") :
    ∃ result, ofCapability { capability with status := some status } = .ok result ∧
      result.capability = { capability with status := some status } := by
  obtain ⟨successful, server, service, primary, named⟩ := serves
  exact ⟨_, ofCapability_eq_ok_iff.mpr ⟨successful, housed, server, service, primary, named, rfl⟩,
    rfl⟩

/-- What gives no result is given up, or lacks something and says what. -/
theorem ProvisionResult.error_of_ofCapability {capability : Capability} {error : ProvisioningError}
    (given : ofCapability capability = .error error) :
    (∃ message ∈ ["capability is not provisioned yet", "capability has no namespace",
        "no server status recorded", "no service name recorded"],
      error = .inconsistent capability.home capability.name message) ∨
      ∃ message, error = .creationFailed capability.home capability.name message := by
  unfold ofCapability at given
  cases phase : capability.phase with
  | requested =>
      simp only [phase, Except.error.injEq] at given
      exact Or.inl ⟨_, by simp, given.symm⟩
  | failed =>
      simp only [phase, Except.error.injEq] at given
      exact Or.inr ⟨_, given.symm⟩
  | successful =>
      by_cases homeless : capability.home = ""
      · simp only [phase, if_pos homeless, Except.error.injEq] at given
        exact Or.inl ⟨_, by simp, given.symm⟩
      · cases primary : capability.primaryServer? with
        | none =>
            simp only [phase, if_neg homeless, primary, Except.error.injEq] at given
            exact Or.inl ⟨_, by simp, given.symm⟩
        | some server =>
            cases recorded : nonEmpty? server.serviceName with
            | none =>
                simp only [phase, if_neg homeless, primary, ofServer, recorded, Option.map_none,
                  Except.error.injEq] at given
                exact Or.inl ⟨_, by simp, given.symm⟩
            | some service => simp [phase, homeless, primary, ofServer, recorded] at given

theorem ProvisionResult.kind_of_ofCapability {capability : Capability} {error : ProvisioningError}
    (given : ofCapability capability = .error error) :
    error.kind = "Inconsistent" ∨ error.kind = "CreationFailed" := by
  rcases error_of_ofCapability given with ⟨_, _, rfl⟩ | ⟨_, rfl⟩
  · exact Or.inl rfl
  · exact Or.inr rfl

/-! ## What a result leads to -/

/-- A reference leads to a name that was recorded, inside a namespace. -/
def Reference.LeadsTo (reference : Reference) (namespaceName : String)
    (recorded : Option String) : Prop :=
  ∃ name, name ≠ "" ∧ recorded = some name ∧ reference = .qualified namespaceName name

private theorem Reference.leadsTo_of_map {reference : Reference} {namespaceName : String}
    {recorded : Option String}
    (given : (nonEmpty? recorded).map (.qualified namespaceName) = some reference) :
    reference.LeadsTo namespaceName recorded := by
  obtain ⟨name, isRecorded, rfl⟩ := Option.map_eq_some_iff.mp given
  obtain ⟨filled, isName⟩ := nonEmpty?_eq_some_iff.mp isRecorded
  exact ⟨name, filled, isName, rfl⟩

/-- What a consumer can rely on: the capability is provisioned, and the references lead to what its
primary server recorded in its own namespace. -/
structure ProvisionResult.Usable (result : ProvisionResult) : Prop where
  successful : result.capability.phase = .successful
  housed : result.capability.home ≠ ""
  recorded : ∃ server, result.capability.primaryServer? = some server ∧
    result.service.LeadsTo result.capability.home server.serviceName ∧
    (∀ ingress, result.ingress = some ingress →
      ingress.LeadsTo result.capability.home server.ingressName) ∧
    ∀ secret, result.adminSecret = some secret →
      secret.LeadsTo result.capability.home server.adminSecretName

theorem ProvisionResult.usable_of_ofCapability {capability : Capability} {result : ProvisionResult}
    (given : ofCapability capability = .ok result) : result.Usable := by
  obtain ⟨successful, housed, server, service, primary, named, rfl⟩ :=
    ofCapability_eq_ok_iff.mp given
  obtain ⟨filled, isService⟩ := nonEmpty?_eq_some_iff.mp named
  refine ⟨successful, housed, server, primary, ⟨service, filled, isService, rfl⟩, ?_, ?_⟩
  · intro ingress isIngress
    exact Reference.leadsTo_of_map isIngress
  · intro secret isSecret
    exact Reference.leadsTo_of_map isSecret

end Provisioning
