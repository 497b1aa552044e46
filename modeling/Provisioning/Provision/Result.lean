import Provisioning.Capability.Basic
import Provisioning.Provision.Error

/-!
# Results of provisioning

What a consumer gets from a capability that was provisioned: references to the service and, where
recorded, to the ingress and the administrator's secret, all in the capability's own namespace.
-/

namespace Provisioning

/-- What a consumer needs to use a capability. -/
structure ProvisionResult where
  capability : Capability
  service : Reference
  ingress : Option Reference
  adminSecret : Option Reference
  deriving DecidableEq

namespace ProvisionResult

/-- The references to what the primary server of a capability recorded. -/
def ofServer (capability : Capability) (server : ServerStatus) :
    Except ProvisioningError ProvisionResult :=
  let reference (name? : Option String) : Option Reference :=
    (nonEmpty? name?).map (.qualified capability.home)
  match reference server.serviceName with
  | none => .error (.inconsistent capability.home capability.name "no service name recorded")
  | some service =>
      .ok
        { capability
          service
          ingress := reference server.ingressName
          adminSecret := reference server.adminSecretName }

/-- The result that a capability gives, if it is provisioned and says where. -/
def ofCapability (capability : Capability) : Except ProvisioningError ProvisionResult :=
  let inconsistent (message : String) : Except ProvisioningError ProvisionResult :=
    .error (.inconsistent capability.home capability.name message)
  match capability.phase with
  | .requested => inconsistent "capability is not provisioned yet"
  | .failed =>
      .error (.creationFailed capability.home capability.name
        ((capability.status.bind (·.message)).getD "capability reported Failed"))
  | .successful =>
      if capability.home = "" then inconsistent "capability has no namespace"
      else
        match capability.primaryServer? with
        | none => inconsistent "no server status recorded"
        | some server => ofServer capability server

/-- A capability gives a result exactly when it is provisioned, lives in a namespace, and its primary
server recorded a service. -/
theorem ofCapability_eq_ok_iff {capability : Capability} {result : ProvisionResult} :
    ofCapability capability = .ok result ↔
      capability.phase = .successful ∧ capability.home ≠ "" ∧
        ∃ server service, capability.primaryServer? = some server ∧
          nonEmpty? server.serviceName = some service ∧
          result =
            { capability
              service := .qualified capability.home service
              ingress := (nonEmpty? server.ingressName).map (.qualified capability.home)
              adminSecret := (nonEmpty? server.adminSecretName).map (.qualified capability.home) } := by
  unfold ofCapability
  cases phase : capability.phase with
  | requested => simp
  | failed => simp
  | successful =>
      by_cases homeless : capability.home = ""
      · simp [homeless]
      · cases primary : capability.primaryServer? with
        | none => simp [homeless]
        | some server =>
            cases recorded : nonEmpty? server.serviceName with
            | none => simp [homeless, ofServer, recorded]
            | some service =>
                simp only [homeless, ofServer, recorded, if_false, Option.map_some, Except.ok.injEq]
                constructor
                · intro equality
                  exact ⟨trivial, homeless, server, service, rfl, recorded, equality.symm⟩
                · rintro ⟨_, _, _, _, sameServer, sameService, equality⟩
                  cases sameServer
                  rw [recorded] at sameService
                  cases sameService
                  exact equality.symm

end ProvisionResult

end Provisioning
