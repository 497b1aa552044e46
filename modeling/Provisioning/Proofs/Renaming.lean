import Provisioning.Proofs.Lockstep
import Provisioning.Proofs.Matching
import Provisioning.Proofs.Surroundings

/-!
# Provisioning under another name

In the labeled scope a capability is created under a name that is drawn at random.  Two calls that draw
differently are compared up to that name: what the one is told of the capability under its name, the
other may be told of it under the other name.  Two calls then ask alike and end alike, in whatever
order their listings come (`keeps_provide`).  Where both names are the same this is equality.
-/

namespace Provisioning

open ClusterObject

/-- The same capability under another name. -/
def Capability.renamed (capability : Capability) (name : String) : Capability :=
  { capability with metadata := { capability.metadata with name := some name } }

section Renames

variable (home one other : String)

/-! ## What is told under either name -/

/-- A capability of the namespace that goes by the one name, and the same under the other; or a
capability and itself. -/
inductive Capability.Renames : Capability → Capability → Prop where
  | same (capability : Capability) : Renames capability capability
  | renamed {capability : Capability} (homed : capability.home = home)
      (named : capability.metadata.name = some one) :
      Renames capability (capability.renamed other)

/-- Two errors that differ at most in that they give the one or the other name. -/
inductive ProvisioningError.Renames : ProvisioningError → ProvisioningError → Prop where
  | same (error : ProvisioningError) : Renames error error
  | scopeMismatch (expected : String) (found : Option String) :
      Renames (.scopeMismatch (home ++ "/" ++ one) expected found)
        (.scopeMismatch (home ++ "/" ++ other) expected found)
  | implementationMismatch (expected : String) (found : Option String) :
      Renames (.implementationMismatch (home ++ "/" ++ one) expected found)
        (.implementationMismatch (home ++ "/" ++ other) expected found)
  | creationFailed (message : String) :
      Renames (.creationFailed home one message) (.creationFailed home other message)
  | inconsistent (message : String) :
      Renames (.inconsistent home one message) (.inconsistent home other message)
  | timedOut (elapsed : Duration) :
      Renames (.timedOut (.named home one) elapsed) (.timedOut (.named home other) elapsed)
  | subscriptionFailed (message : String) :
      Renames (.subscriptionFailed (.named home one) message)
        (.subscriptionFailed (.named home other) message)

/-- Two errors of waits that differ at most in that they give the one or the other name. -/
inductive WaitError.Renames : WaitError → WaitError → Prop where
  | same (error : WaitError) : Renames error error
  | timedOut (elapsed : Duration) :
      Renames (.timedOut (.named home one) elapsed) (.timedOut (.named home other) elapsed)
  | subscriptionFailed (message : String) :
      Renames (.subscriptionFailed (.named home one) message)
        (.subscriptionFailed (.named home other) message)
  | unreadable (source : Failure) :
      Renames (.unreadable (.named home one) source) (.unreadable (.named home other) source)

inductive Wait.End.Renames : Wait.End Capability → Wait.End Capability → Prop where
  | met {object renamed : Capability} (renames : object.Renames home one other renamed) :
      Renames (.met object) (.met renamed)
  | failed {error renamed : WaitError} (renames : error.Renames home one other renamed) :
      Renames (.failed error) (.failed renamed)
  | beyondClock : Renames .beyondClock .beyondClock

/-- Two results that hand out the same references, for a capability under either name. -/
structure ProvisionResult.Renames (result renamed : ProvisionResult) : Prop where
  capability : result.capability.Renames home one other renamed.capability
  service : result.service = renamed.service
  ingress : result.ingress = renamed.ingress
  adminSecret : result.adminSecret = renamed.adminSecret

inductive EndRenames : Except ProvisioningError ProvisionResult →
    Except ProvisioningError ProvisionResult → Prop where
  | ok {result renamed : ProvisionResult} (renames : result.Renames home one other renamed) :
      EndRenames (.ok result) (.ok renamed)
  | error {error renamed : ProvisioningError} (renames : error.Renames home one other renamed) :
      EndRenames (.error error) (.error renamed)

/-- Of two pairs of capabilities the first ones stand to each other as the second ones, by their
keys. -/
def StandAlike (pair later : Capability × Capability) : Prop :=
  (key pair.1 < key later.1 ∧ key pair.2 < key later.2) ∨
    (key later.1 < key pair.1 ∧ key later.2 < key pair.2)

/-- Two listings hold the same capabilities, of which some may be renamed, unless that would change
their places in order of the keys. -/
def ListsAlike (listed others : List Capability) : Prop :=
  ∃ pairs : List (Capability × Capability),
    listed.Perm (pairs.map Prod.fst) ∧ others.Perm (pairs.map Prod.snd) ∧
    (∀ pair ∈ pairs, pair.1.Renames home one other pair.2) ∧
    pairs.Pairwise StandAlike

end Renames

/-- Two answers are the same failure, or give related values. -/
inductive SameFailure {α : Type} (alike : α → α → Prop) : Except Failure α → Except Failure α →
    Prop where
  | ok {value other : α} (related : alike value other) : SameFailure alike (.ok value) (.ok other)
  | error (failure : Failure) : SameFailure alike (.error failure) (.error failure)

theorem SameFailure.refl {α : Type} {alike : α → α → Prop} (reflexive : ∀ value, alike value value)
    (answer : Except Failure α) : SameFailure alike answer answer := by
  cases answer with
  | ok value => exact .ok (reflexive value)
  | error failure => exact .error failure

namespace CapabilityCall

variable (home one other : String)

/-- Two calls are the same up to the name of what is created. -/
inductive Renames : CapabilityCall → CapabilityCall → Prop where
  | same (request : CapabilityCall) : Renames request request
  | get : Renames (.get home one) (.get home other)
  | create {capability renamed : Capability} (renames : capability.Renames home one other renamed) :
      Renames (.create capability) (.create renamed)
  | awaitSettled (timeout : Duration) :
      Renames (.awaitSettled home one timeout) (.awaitSettled home other timeout)

/-- Two answers tell the same, in whatever order, up to the name of what was created. -/
def TellsAlike : (request renamed : CapabilityCall) → request.Answer → renamed.Answer → Prop
  | .get .., .get .., answer, told =>
      SameFailure (Option.Rel (Capability.Renames home one other)) answer told
  | .listIn .., .listIn .., answer, told => SameFailure (ListsAlike home one other) answer told
  | .listAll _, .listAll _, answer, told => SameFailure (ListsAlike home one other) answer told
  | .create _, .create _, answer, told => SameFailure (fun _ _ => True) answer told
  | .loadDefaults, .loadDefaults, answer, told => answer = told
  | .awaitSettled .., .awaitSettled .., answer, told => answer.Renames home one other told
  | _, _, _, _ => False

end CapabilityCall

section Lemmas

variable {home one other : String}

/-! ## What does not depend on the name -/

private theorem Capability.name_of_named {capability : Capability}
    (named : capability.metadata.name = some one) : capability.name = one := by
  rw [name, Metadata.anyName, named]
  rfl

namespace Capability.Renames

variable {capability renamed : Capability}

theorem phase_eq (renames : capability.Renames home one other renamed) :
    capability.phase = renamed.phase := by
  cases renames with
  | same => rfl
  | renamed _ _ => rfl

/-- Where the one name is the other, a capability is renamed to itself. -/
theorem eq (renames : capability.Renames home one one renamed) : capability = renamed := by
  cases renames with
  | same => rfl
  | renamed _ named => rw [Capability.renamed, ← named]

/-- Whatever holds of one place and itself, and of the places under the two names, holds of the
places of two capabilities. -/
theorem at_places (said : ObjectKey → ObjectKey → Prop) (same : ∀ place, said place place)
    (underNames : said ⟨home, one⟩ ⟨home, other⟩)
    (renames : capability.Renames home one other renamed) : said (key capability) (key renamed) := by
  cases renames with
  | same => exact same (key capability)
  | renamed homed named =>
      have place : key capability = ⟨home, one⟩ := by
        rw [← homed, ← name_of_named named]
        rfl
      have otherPlace : key (capability.renamed other) = ⟨home, other⟩ := by
        rw [← homed]
        rfl
      rw [place, otherPlace]
      exact underNames

theorem get (renames : capability.Renames home one other renamed) :
    CapabilityCall.Renames home one other (.get capability.home capability.name)
      (.get renamed.home renamed.name) :=
  renames.at_places
    (fun place otherPlace => CapabilityCall.Renames home one other
      (.get place.namespaceName place.name) (.get otherPlace.namespaceName otherPlace.name))
    (fun _ => .same _) .get

theorem awaitSettled (renames : capability.Renames home one other renamed) (timeout : Duration) :
    CapabilityCall.Renames home one other (.awaitSettled capability.home capability.name timeout)
      (.awaitSettled renamed.home renamed.name timeout) :=
  renames.at_places
    (fun place otherPlace => CapabilityCall.Renames home one other
      (.awaitSettled place.namespaceName place.name timeout)
      (.awaitSettled otherPlace.namespaceName otherPlace.name timeout))
    (fun _ => .same _) (.awaitSettled timeout)

theorem inconsistent (renames : capability.Renames home one other renamed) (message : String) :
    ProvisioningError.Renames home one other
      (.inconsistent capability.home capability.name message)
      (.inconsistent renamed.home renamed.name message) :=
  renames.at_places
    (fun place otherPlace => ProvisioningError.Renames home one other
      (.inconsistent place.namespaceName place.name message)
      (.inconsistent otherPlace.namespaceName otherPlace.name message))
    (fun _ => .same _) (.inconsistent message)

theorem validate (renames : capability.Renames home one other renamed)
    (requirement : Requirement) :
    (capability.validate requirement = .ok () ∧ renamed.validate requirement = .ok ()) ∨
      ∃ error otherError, capability.validate requirement = .error error ∧
        renamed.validate requirement = .error otherError ∧
        error.Renames home one other otherError := by
  cases renames with
  | same =>
      cases capability.validate requirement with
      | ok _ => exact Or.inl ⟨rfl, rfl⟩
      | error error => exact Or.inr ⟨error, error, rfl, rfl, .same error⟩
  | renamed homed named =>
      have path : capability.path = home ++ "/" ++ one := by
        rw [Capability.path, homed, name_of_named named]
      have renamedPath : (capability.renamed other).path = home ++ "/" ++ other := by
        rw [← homed]
        rfl
      have scopeLabel : (capability.renamed other).scopeLabel? = capability.scopeLabel? := rfl
      have implementationLabel :
          (capability.renamed other).implementationLabel? = capability.implementationLabel? := rfl
      unfold Capability.validate
      rw [path, renamedPath, scopeLabel, implementationLabel]
      by_cases foreign : capability.scopeLabel? ≠ some requirement.effectiveScope.label
      · simp only [if_pos foreign]
        exact Or.inr ⟨_, _, rfl, rfl, .scopeMismatch _ _⟩
      · simp only [if_neg foreign]
        cases requirement.implementation with
        | none => exact Or.inl ⟨rfl, rfl⟩
        | some implementation =>
            by_cases unfit : capability.implementationLabel? ≠ some implementation.label
            · simp only [if_pos unfit]
              exact Or.inr ⟨_, _, rfl, rfl, .implementationMismatch _ _⟩
            · simp only [if_neg unfit]
              exact Or.inl ⟨trivial, trivial⟩

/-- A capability gives the same references under either name, or the same error. -/
theorem ofCapability (renames : capability.Renames home one other renamed) :
    EndRenames home one other (ProvisionResult.ofCapability capability)
      (ProvisionResult.ofCapability renamed) := by
  cases renames with
  | same =>
      cases ProvisionResult.ofCapability capability with
      | ok result => exact .ok ⟨.same _, rfl, rfl, rfl⟩
      | error error => exact .error (.same error)
  | renamed homed named =>
      have name := name_of_named named
      have phase : (capability.renamed other).phase = capability.phase := rfl
      have status : (capability.renamed other).status = capability.status := rfl
      have primaryServer :
          (capability.renamed other).primaryServer? = capability.primaryServer? := rfl
      have renamedHome : (capability.renamed other).home = home := homed
      have renamedName : (capability.renamed other).name = other := rfl
      unfold ProvisionResult.ofCapability
      rw [phase, status, primaryServer, renamedHome, renamedName, homed, name]
      cases capability.phase with
      | requested => exact .error (.inconsistent _)
      | failed => exact .error (.creationFailed _)
      | successful =>
          by_cases homeless : home = ""
          · simp only [if_pos homeless]
            exact .error (.inconsistent _)
          · simp only [if_neg homeless]
            cases capability.primaryServer? with
            | none => exact .error (.inconsistent _)
            | some server =>
                simp only [ProvisionResult.ofServer, renamedHome, renamedName, homed, name]
                cases nonEmpty? server.serviceName with
                | none => exact .error (.inconsistent _)
                | some service => exact .ok ⟨.renamed homed named, rfl, rfl, rfl⟩

end Capability.Renames

theorem WaitError.Renames.ofWait {error renamed : WaitError}
    (renames : error.Renames home one other renamed) :
    (ProvisioningError.ofWait error).Renames home one other (.ofWait renamed) := by
  cases renames with
  | same => exact .same _
  | timedOut elapsed => exact .timedOut elapsed
  | subscriptionFailed message => exact .subscriptionFailed message
  | unreadable source => exact .same (.failed source)

instance : Std.Symm StandAlike := ⟨fun _ _ => Or.symm⟩

theorem ListsAlike.of_perm {listed others : List Capability} (perm : listed.Perm others)
    (distinct : (listed.map key).Nodup) : ListsAlike home one other listed others := by
  refine ⟨listed.map fun capability => (capability, capability), ?_, ?_, ?_, ?_⟩
  · simp only [List.map_map, Function.comp_def, List.map_id']
    exact .refl listed
  · simp only [List.map_map, Function.comp_def, List.map_id']
    exact perm.symm
  · intro pair member
    obtain ⟨capability, _, rfl⟩ := List.mem_map.mp member
    exact .same capability
  · refine List.pairwise_map.mpr ((List.pairwise_map.mp distinct).imp ?_)
    intro capability later apart
    rcases ObjectKey.lt_or_eq_or_lt (key capability) (key later) with below | same | above
    · exact Or.inl ⟨below, below⟩
    · exact absurd same apart
    · exact Or.inr ⟨above, above⟩

/-- The first of two listings is the same but for its name. -/
theorem ListsAlike.first? {listed others : List Capability}
    (alike : ListsAlike home one other listed others) :
    Option.Rel (Capability.Renames home one other) (Provision.first? listed)
      (Provision.first? others) := by
  obtain ⟨pairs, listing, otherListing, renames, ordered⟩ := alike
  cases found : Provision.first? listed with
  | none =>
      have noPairs : pairs = [] := by
        rw [Provision.first?_eq_none_iff.mp found] at listing
        exact List.map_eq_nil_iff.mp listing.symm.eq_nil
      rw [noPairs] at otherListing
      rw [otherListing.eq_nil]
      exact .none
  | some capability =>
      have member := listing.mem_iff.mp (Provision.mem_of_first? found)
      obtain ⟨pair, inPairs, rfl⟩ := List.mem_map.mp member
      have least : Provision.first? others = some pair.2 := by
        apply Provision.first?_eq_some_of_least
          (otherListing.mem_iff.mpr (List.mem_map_of_mem inPairs))
        intro object objectListed
        obtain ⟨later, laterInPairs, rfl⟩ := List.mem_map.mp (otherListing.mem_iff.mp objectListed)
        by_cases same : pair = later
        · exact Or.inl (same ▸ rfl)
        · have apart := ordered.forall inPairs laterInPairs same
          rcases apart with ⟨_, below⟩ | ⟨above, _⟩
          · exact Or.inr below
          · have laterListed := listing.mem_iff.mpr (List.mem_map_of_mem laterInPairs)
            exact absurd above (Provision.first?_least found _ laterListed)
      rw [least]
      exact .some (renames pair inPairs)

end Lemmas

/-! ## Provisioning -/

namespace Provision

variable (home one other : String)

/-- Two programs ask alike and end alike up to a name, if they are told alike. -/
abbrev Keeps (program renamed : CapabilityProgram (Except ProvisioningError ProvisionResult)) :
    Prop :=
  Program.InStep (CapabilityCall.Renames home one other) (CapabilityCall.TellsAlike home one other)
    (EndRenames home one other) program renamed

variable {home one other}
variable {requirement : Requirement} {timeout : Duration} {lookup : Lookup}

private theorem keeps_error (error : ProvisioningError) :
    Keeps home one other (.done (.error error)) (.done (.error error)) :=
  .done (.error (.same error))

private theorem keeps_asks {left right : Option Capability →
      CapabilityProgram (Except ProvisioningError ProvisionResult)}
    (next : ∀ found? told?, Option.Rel (Capability.Renames home one other) found? told? →
      Keeps home one other (left found?) (right told?)) :
    Keeps home one other (asks lookup left) (asks lookup right) := by
  have outcomes : ∀ answer told,
      CapabilityCall.TellsAlike home one other lookup.request lookup.request answer told →
      SameFailure (Option.Rel (Capability.Renames home one other)) (lookup.outcome answer)
        (lookup.outcome told) := by
    have listings : ∀ answer told, SameFailure (ListsAlike home one other) answer told →
        SameFailure (Option.Rel (Capability.Renames home one other)) (answer.map first?)
          (told.map first?) := by
      intro answer told alike
      cases alike with
      | ok related => exact .ok related.first?
      | error failure => exact .error failure
    intro answer told alike
    cases lookup with
    | byName namespaceName name => exact alike
    | byLabels namespaceName? labels =>
        cases namespaceName? with
        | none => exact listings answer told alike
        | some namespaceName => exact listings answer told alike
  refine .call (.same _) fun answer told alike => ?_
  have outcome := outcomes answer told alike
  generalize lookup.outcome answer = found at outcome ⊢
  generalize lookup.outcome told = foundToo at outcome ⊢
  cases outcome with
  | ok related => exact next _ _ related
  | error failure => exact keeps_error _

private theorem keeps_settled {target renamed : Capability} (renames : target.Renames home one other renamed)
    {left right : Capability → CapabilityProgram (Except ProvisioningError ProvisionResult)}
    (next : ∀ ready told : Capability, ready.Renames home one other told →
      Keeps home one other (left ready) (right told)) :
    Keeps home one other
      (.call (.awaitSettled target.home target.name timeout) fun
        | .met ready => left ready
        | .failed error => .done (.error (.ofWait error))
        | .beyondClock => .abort Wait.beyondClockMessage)
      (.call (.awaitSettled renamed.home renamed.name timeout) fun
        | .met ready => right ready
        | .failed error => .done (.error (.ofWait error))
        | .beyondClock => .abort Wait.beyondClockMessage) := by
  refine .call (renames.awaitSettled timeout) fun answer told alike => ?_
  cases alike with
  | met related => exact next _ _ related
  | failed related => exact .done (.error related.ofWait)
  | beyondClock => exact .abort _

private theorem keeps_ofCapability {capability renamed : Capability}
    (renames : capability.Renames home one other renamed) :
    Keeps home one other (.done (ProvisionResult.ofCapability capability))
      (.done (ProvisionResult.ofCapability renamed)) :=
  .done renames.ofCapability

private theorem keeps_useExisting {found renamed : Capability}
    (renames : found.Renames home one other renamed) :
    Keeps home one other (useExisting requirement timeout found).run
      (useExisting requirement timeout renamed).run := by
  rw [run_useExisting, run_useExisting, ← renames.phase_eq]
  rcases renames.validate requirement with ⟨valid, otherValid⟩ |
    ⟨error, otherError, invalid, otherInvalid, related⟩
  · simp only [valid, otherValid]
    by_cases terminal : found.phase.isTerminal = true
    · simp only [if_pos terminal]
      exact keeps_ofCapability renames
    · simp only [if_neg terminal]
      exact keeps_settled renames fun ready told => keeps_ofCapability
  · simp only [invalid, otherInvalid]
    exact .done (.error related)

private theorem keeps_awaitCreated {target renamed : Capability}
    (renames : target.Renames home one other renamed) :
    Keeps home one other (awaitCreated lookup timeout target).run
      (awaitCreated lookup timeout renamed).run := by
  rw [run_awaitCreated_asks, run_awaitCreated_asks]
  refine keeps_settled renames fun ready told related => ?_
  by_cases failed : ready.phase = .failed
  · simp only [if_pos failed, if_pos (related.phase_eq ▸ failed)]
    exact keeps_ofCapability related
  · simp only [if_neg failed, if_neg (related.phase_eq ▸ failed)]
    refine keeps_asks fun found? told? seen => ?_
    cases seen with
    | some resolved => exact keeps_ofCapability resolved
    | none => exact .done (.error (renames.inconsistent _))

private theorem keeps_adopt {built renamed : Capability}
    (renames : built.Renames home one other renamed) :
    Keeps home one other (adopt requirement built >>= awaitCreated lookup timeout).run
      (adopt requirement renamed >>= awaitCreated lookup timeout).run := by
  rw [run_adopt_bind, run_adopt_bind]
  refine .call renames.get fun answer told alike => ?_
  cases alike with
  | error failure => exact keeps_error _
  | ok related =>
      cases related with
      | none => exact .done (.error (renames.inconsistent _))
      | some existing =>
          rcases existing.validate requirement with ⟨valid, otherValid⟩ |
            ⟨error, otherError, invalid, otherInvalid, refused⟩
          · simp only [valid, otherValid]
            exact keeps_awaitCreated existing
          · simp only [invalid, otherInvalid]
            exact .done (.error refused)

private theorem keeps_createOrAdopt {built renamed : Capability}
    (renames : built.Renames home one other renamed) :
    Keeps home one other (createOrAdopt requirement built >>= awaitCreated lookup timeout).run
      (createOrAdopt requirement renamed >>= awaitCreated lookup timeout).run := by
  rw [run_createOrAdopt_bind, run_createOrAdopt_bind]
  refine .call (.create renames) fun answer told alike => ?_
  cases alike with
  | ok _ => exact keeps_awaitCreated renames
  | error failure =>
      by_cases taken : failure.saysTaken = true
      · simp only [if_pos taken]
        exact keeps_adopt renames
      · simp only [if_neg taken]
        exact keeps_error _

/-- Two calls build nothing, or the same up to a name. -/
def Draws (home one other operatorNamespace : String) (serial otherSerial : Serial)
    (requester : Requester) (requirement : Requirement) : Prop :=
  ∀ defaults,
    (∃ error,
      Placement.build requester requirement defaults operatorNamespace serial = .error error ∧
      Placement.build requester requirement defaults operatorNamespace otherSerial =
        .error error) ∨
    ∃ built renamed,
      Placement.build requester requirement defaults operatorNamespace serial = .ok built ∧
      Placement.build requester requirement defaults operatorNamespace otherSerial = .ok renamed ∧
      built.Renames home one other renamed

private theorem keeps_provideNew {operatorNamespace : String} {serial otherSerial : Serial}
    {requester : Requester} (draws : Draws home one other operatorNamespace serial otherSerial
      requester requirement) :
    Keeps home one other
      (provideNew operatorNamespace serial requester requirement timeout lookup).run
      (provideNew operatorNamespace otherSerial requester requirement timeout lookup).run := by
  rw [run_provideNew, run_provideNew]
  refine .call (.same _) fun loaded told same => ?_
  cases same
  cases loaded with
  | error failure => exact keeps_error _
  | ok defaults =>
      rcases draws defaults with ⟨error, unbuilt, otherUnbuilt⟩ |
        ⟨built, renamed, isBuilt, otherBuilt, renames⟩
      · simp only [unbuilt, otherUnbuilt]
        exact keeps_error error
      · simp only [isBuilt, otherBuilt]
        exact keeps_createOrAdopt renames

theorem keeps_provide {operatorNamespace : String} {serial otherSerial : Serial}
    {requester : Requester} (draws : Draws home one other operatorNamespace serial otherSerial
      requester requirement) :
    Keeps home one other (provide operatorNamespace serial requester requirement timeout)
      (provide operatorNamespace otherSerial requester requirement timeout) := by
  cases planned : Lookup.plan requester requirement with
  | error error =>
      rw [provide, provide, planned]
      exact keeps_error error
  | ok lookup =>
      rw [provide_eq_asks requirement timeout planned, provide_eq_asks requirement timeout planned]
      refine keeps_asks fun found? told? seen => ?_
      cases seen with
      | some found => exact keeps_useExisting found
      | none => exact keeps_provideNew draws

/-- In the labeled scope two names are drawn, and all else is built alike. -/
theorem draws_labeled {operatorNamespace : String} {requester : Requester}
    (labeled : requirement.effectiveScope = .labeled) (serial otherSerial : Serial) :
    Draws requester.namespaceName (Placement.labeledName requirement serial)
      (Placement.labeledName requirement otherSerial) operatorNamespace serial otherSerial requester
      requirement := by
  intro defaults
  refine Or.inr ⟨_, _, Placement.build_eq_ok_iff.mpr ⟨_, _, ?_, rfl⟩,
    Placement.build_eq_ok_iff.mpr ⟨_, _, ?_, rfl⟩, .renamed rfl rfl⟩
  · rw [Placement.place, labeled]
  · rw [Placement.place, labeled]

/-- In the other scopes nothing is drawn. -/
theorem draws_same {operatorNamespace : String} {serial otherSerial : Serial}
    {requester : Requester}
    (sameDraw : requirement.effectiveScope = .labeled → serial = otherSerial) :
    Draws home one other operatorNamespace serial otherSerial requester requirement := by
  intro defaults
  have place : Placement.place requester requirement defaults operatorNamespace serial =
      Placement.place requester requirement defaults operatorNamespace otherSerial := by
    unfold Placement.place
    cases scope : requirement.effectiveScope with
    | labeled => rw [sameDraw scope]
    | dedicated => rfl
    | specified => rfl
    | namespaced => rfl
    | cluster => rfl
  have build : Placement.build requester requirement defaults operatorNamespace serial =
      Placement.build requester requirement defaults operatorNamespace otherSerial := by
    unfold Placement.build
    rw [place]
  rw [build]
  cases Placement.build requester requirement defaults operatorNamespace otherSerial with
  | error error => exact Or.inl ⟨error, rfl, rfl⟩
  | ok built => exact Or.inr ⟨built, built, rfl, rfl, .same built⟩

end Provision

end Provisioning
