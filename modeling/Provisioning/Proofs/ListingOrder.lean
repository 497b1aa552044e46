import Provisioning.Proofs.ByteOrder
import Provisioning.Proofs.ReferenceChain
import Provisioning.Proofs.Renaming

/-!
# The order of listings

A store lists what it holds in any order.  Neither what is asked for, nor what is created, nor what
comes of it depends on that order, for provisioning as for references: a lookup by labels takes the
capability whose namespace and name come first, byte by byte.

Main statement: `provide_ignores_listing_order`.
-/

namespace Provisioning

open ClusterObject

/-! ## Listings of the same -/

namespace CapabilityCall

/-- Two listings hold the same capabilities, each at a key of its own. -/
def SameListing (listed others : List Capability) : Prop :=
  listed.Perm others ∧ (listed.map key).Nodup

/-- Two answers are the same, but for the order of a listing. -/
def SameButOrder : (request : CapabilityCall) → (answer told : request.Answer) → Prop
  | .get .., answer, told => answer = told
  | .listIn .., answer, told => SameFailure SameListing answer told
  | .listAll _, answer, told => SameFailure SameListing answer told
  | .create _, answer, told => answer = told
  | .loadDefaults, answer, told => answer = told
  | .awaitSettled .., answer, told => answer = told

theorem Renames.eq {home name : String} {request renamed : CapabilityCall}
    (renames : request.Renames home name name renamed) : request = renamed := by
  cases renames with
  | same => rfl
  | get => rfl
  | create renames => rw [renames.eq]
  | awaitSettled timeout => rfl

private theorem tellsAlike_of_sameButOrder {home one other : String} {request : CapabilityCall}
    {answer told : request.Answer} (same : request.SameButOrder answer told) :
    TellsAlike home one other request request answer told := by
  have listings : ∀ answer told, SameFailure SameListing answer told →
      SameFailure (ListsAlike home one other) answer told := by
    intro answer told alike
    cases alike with
    | ok related => exact .ok (.of_perm related.1 related.2)
    | error failure => exact .error failure
  cases request with
  | get namespaceName name =>
      cases same
      refine SameFailure.refl (fun found? => ?_) answer
      cases found? with
      | none => exact .none
      | some found => exact .some (.same found)
  | listIn namespaceName labels => exact listings answer told same
  | listAll labels => exact listings answer told same
  | create capability =>
      cases same
      exact SameFailure.refl (fun _ => trivial) answer
  | loadDefaults => exact same
  | awaitSettled namespaceName name timeout =>
      cases same
      cases answer with
      | met object => exact .met (.same object)
      | failed error => exact .failed (.same error)
      | beyondClock => exact .beyondClock

end CapabilityCall

theorem ListsAlike.perm {home name : String} {listed others : List Capability}
    (alike : ListsAlike home name name listed others) : listed.Perm others := by
  obtain ⟨pairs, listing, otherListing, renames, _⟩ := alike
  have same : pairs.map Prod.fst = pairs.map Prod.snd :=
    List.map_congr_left fun pair member => (renames pair member).eq
  rw [same] at listing
  exact listing.trans otherListing.symm

theorem EndRenames.eq {home name : String}
    {outcome renamed : Except ProvisioningError ProvisionResult}
    (renames : EndRenames home name name outcome renamed) : outcome = renamed := by
  cases renames with
  | @ok result renamed related =>
      have capability := related.capability.eq
      have service := related.service
      have ingress := related.ingress
      have adminSecret := related.adminSecret
      cases result
      cases renamed
      cases capability
      cases service
      cases ingress
      cases adminSecret
      rfl
  | error related =>
      cases related with
      | same => rfl
      | scopeMismatch _ _ => rfl
      | implementationMismatch _ _ => rfl
      | creationFailed _ => rfl
      | inconsistent _ => rfl
      | timedOut _ => rfl
      | subscriptionFailed _ => rfl

/-! ## Programs that do not depend on the order -/

section Programs

variable {α : Type}

/-- Two programs ask for the same and stand at the same point, after as many calls or when they are
finished, whenever they are told the same in whatever order. -/
def SameForListings (program other : CapabilityProgram α) : Prop :=
  ∀ exchanges others left otherLeft, program.Comes exchanges left → other.Comes others otherLeft →
    (∀ request answer told,
      ((⟨request, answer⟩ : Provision.Exchange), (⟨request, told⟩ : Provision.Exchange)) ∈
        exchanges.zip others → request.SameButOrder answer told) →
    (exchanges.length = others.length ∨ left.IsFinished ∧ otherLeft.IsFinished) →
    exchanges.map (·.request) = others.map (·.request) ∧ left.standing = otherLeft.standing

private theorem sameForListings_of_inStep {home name : String} {program other : CapabilityProgram α}
    (inStep : Program.InStep (CapabilityCall.Renames home name name)
      (CapabilityCall.TellsAlike home name name) Eq program other) :
    SameForListings program other := by
  intro exchanges others left otherLeft comes otherComes told level
  have alike : Program.AnsweredAlike (CapabilityCall.Renames home name name)
      (CapabilityCall.TellsAlike home name name) exchanges others := by
    intro pair member renames
    obtain ⟨⟨request, answer⟩, ⟨otherRequest, otherAnswer⟩⟩ := pair
    cases renames.eq
    exact CapabilityCall.tellsAlike_of_sameButOrder (told request answer otherAnswer member)
  obtain ⟨asked, rest⟩ := inStep.of_goes comes otherComes alike level
  refine ⟨?_, rest.standing_eq fun _ _ => CapabilityCall.Renames.eq⟩
  rw [← List.forall₂_eq_eq_eq, List.forall₂_map_left_iff, List.forall₂_map_right_iff]
  exact asked.imp fun _ _ => CapabilityCall.Renames.eq

end Programs

/-! ## The least of a listing -/

namespace Provision

/-- A capability is in a listing, and its namespace and name come before those of all others there,
byte by byte. -/
def IsLeastOf (capability : Capability) (listed : List Capability) : Prop :=
  capability ∈ listed ∧ ∀ other ∈ listed, other ≠ capability →
    Text.bytes capability.home < Text.bytes other.home ∨
      (capability.home = other.home ∧ Text.bytes capability.name < Text.bytes other.name)

private theorem first?_eq_some_iff_isLeastOf {listed : List Capability} {capability : Capability}
    (distinct : (listed.map key).Nodup) :
    first? listed = some capability ↔ IsLeastOf capability listed := by
  constructor
  · intro found
    have member := mem_of_first? found
    refine ⟨member, fun other otherMember apart => ?_⟩
    rcases ObjectKey.lt_or_eq_or_lt (key capability) (key other) with below | same | above
    · exact ObjectKey.lt_iff_bytes.mp below
    · exact absurd (List.inj_on_of_nodup_map distinct otherMember member same.symm) apart
    · exact absurd above (first?_least found other otherMember)
  · intro least
    apply first?_eq_some_of_least least.1
    intro other otherMember
    by_cases same : other = capability
    · exact Or.inl same
    · exact Or.inr (ObjectKey.lt_iff_bytes.mpr (least.2 other otherMember same))

end Provision

namespace Reference

@[simp]
theorem leastName?_eq_none_iff {names : List String} : leastName? names = none ↔ names = [] := by
  cases names with
  | nil => simp [leastName?]
  | cons head tail =>
      simp only [leastName?, reduceCtorEq, iff_false]
      cases leastName? tail with
      | none => simp
      | some other =>
          simp only
          split <;> simp

private theorem least_of_leastName? {names : List String} {name : String}
    (found : leastName? names = some name) : name ∈ names ∧ ∀ other ∈ names, ¬ other < name := by
  induction names generalizing name with
  | nil => cases found
  | cons head tail inductionHypothesis =>
      rw [leastName?] at found
      cases rest : leastName? tail with
      | none =>
          rw [leastName?_eq_none_iff] at rest
          simp only [rest, leastName?, Option.some.injEq] at found
          subst found
          subst rest
          refine ⟨List.mem_cons_self, fun other member below => ?_⟩
          rw [List.mem_singleton] at member
          exact String.lt_irrefl _ (member ▸ below)
      | some least =>
          obtain ⟨member, leastBelow⟩ := inductionHypothesis rest
          simp only [rest] at found
          by_cases below : least < head
          · rw [if_pos below, Option.some.injEq] at found
            subst found
            refine ⟨List.mem_cons_of_mem head member, fun other otherMember otherBelow => ?_⟩
            rcases List.mem_cons.mp otherMember with isHead | inTail
            · exact String.lt_irrefl _ (String.lt_trans (isHead ▸ otherBelow) below)
            · exact leastBelow other inTail otherBelow
          · rw [if_neg below, Option.some.injEq] at found
            subst found
            refine ⟨List.mem_cons_self, fun other otherMember otherBelow => ?_⟩
            rcases List.mem_cons.mp otherMember with isHead | inTail
            · exact String.lt_irrefl _ (isHead ▸ otherBelow)
            · rcases lt_trichotomy head least with lower | same | higher
              · exact leastBelow other inTail (String.lt_trans otherBelow lower)
              · exact leastBelow other inTail (same ▸ otherBelow)
              · exact below higher

private theorem leastName?_eq_some_iff {names : List String} {name : String} :
    leastName? names = some name ↔ name ∈ names ∧ ∀ other ∈ names, ¬ other < name := by
  constructor
  · exact least_of_leastName?
  · intro least
    cases found : leastName? names with
    | none =>
        rw [leastName?_eq_none_iff.mp found] at least
        cases least.1
    | some other =>
        have otherLeast := least_of_leastName? found
        rcases lt_trichotomy other name with below | same | above
        · exact absurd below (least.2 other otherLeast.1)
        · rw [same]
        · exact absurd above (otherLeast.2 name least.1)

private theorem leastName?_of_perm {names others : List String} (perm : names.Perm others) :
    leastName? names = leastName? others := by
  apply Option.ext
  intro name
  simp only [leastName?_eq_some_iff, perm.mem_iff]

private theorem discover_eq_call (namespaceName : String) (kind : CapabilityKind) :
    discover namespaceName kind = .call
      (.listIn namespaceName (StringMap.empty.insert Conventions.kindLabel kind.label))
      fun answer => .done (answer.map fun listed =>
        (leastName? (listed.map (·.name))).map (.qualified namespaceName)) := by
  refine congrArg (Program.call _) (funext fun answer => ?_)
  cases answer with
  | error failure => rfl
  | ok listed => rfl

private theorem inStep_discover (home name namespaceName : String) (kind : CapabilityKind) :
    Program.InStep (CapabilityCall.Renames home name name)
      (CapabilityCall.TellsAlike home name name) Eq (discover namespaceName kind)
      (discover namespaceName kind) := by
  rw [discover_eq_call]
  refine .call (.same _) fun answer told alike => .done ?_
  cases alike with
  | error failure => rfl
  | @ok listed others alike =>
      have names : (listed.map (·.name)).Perm (others.map (·.name)) :=
        alike.perm.map _
      simp only [Except.map, leastName?_of_perm names]

/-- A choice of a reference keeps step with itself, over the calls to the cluster. -/
theorem inStep_choose (home name : String) (requester : Requester) (kind : CapabilityKind)
    (stated? : Option Reference) :
    Program.InStep (CapabilityCall.Renames home name name)
      (CapabilityCall.TellsAlike home name name) Eq
      ((choose requester kind stated?).expand answerCall)
      ((choose requester kind stated?).expand answerCall) := by
  refine .expand (fun request => ?_) _
  cases request with
  | discover namespaceName kind => exact inStep_discover home name namespaceName kind
  | loadDefaults => exact .call (.same _) fun answer told same => .done same

end Reference

/-! ## Provisioning -/

namespace Provision

private theorem run_find (lookup : Lookup) :
    (find lookup).run = .call lookup.request fun answer =>
      match lookup.outcome answer with
      | .ok found? => .done (.ok found?)
      | .error failure => .done (.error (.failed failure)) := by
  have closed := run_find_bind lookup (pure : Option Capability → Attempt (Option Capability))
  rw [bind_pure] at closed
  exact closed

theorem find_picks_least {namespaceName? : Option String} {labels : Labels}
    {listed : List Capability} {answer : (Lookup.byLabels namespaceName? labels).request.Answer}
    (distinct : (listed.map key).Nodup)
    (isListed : (Lookup.byLabels namespaceName? labels).outcome answer = .ok (first? listed))
    (capability : Capability) :
    (find (.byLabels namespaceName? labels)).run.Comes
        [⟨(Lookup.byLabels namespaceName? labels).request, answer⟩]
        (.done (.ok (some capability))) ↔
      IsLeastOf capability listed := by
  rw [← first?_eq_some_iff_isLeastOf distinct, run_find, Program.comes_call_done_iff]
  constructor
  · intro comes
    obtain ⟨_, _, isAnswer, rest⟩ := comes
    cases isAnswer
    simp only [isListed, Program.comes_done_done_iff, Except.ok.injEq] at rest
    exact rest.2.symm
  · intro found
    refine ⟨answer, [], rfl, ?_⟩
    simp only [isListed, found, Program.comes_done_done_iff, and_self]

end Provision

theorem Reference.discover_picks_least {namespaceName : String} {kind : CapabilityKind}
    {listed : List Capability} (reference : Reference) :
    (discover namespaceName kind).Comes
        [⟨.listIn namespaceName (StringMap.empty.insert Conventions.kindLabel kind.label),
          .ok listed⟩] (.done (.ok (some reference))) ↔
      ∃ capability ∈ listed, reference = .qualified namespaceName capability.name ∧
        ∀ other ∈ listed, ¬ Text.bytes other.name < Text.bytes capability.name := by
  have picked : (discover namespaceName kind).Comes
        [⟨.listIn namespaceName (StringMap.empty.insert Conventions.kindLabel kind.label),
          .ok listed⟩] (.done (.ok (some reference))) ↔
      (leastName? (listed.map (·.name))).map (.qualified namespaceName) = some reference := by
    rw [discover_eq_call, Program.comes_call_done_iff]
    constructor
    · intro comes
      obtain ⟨_, _, isAnswer, rest⟩ := comes
      cases isAnswer
      have outcome := (Program.comes_done_done_iff.mp rest).2
      exact (Except.ok.inj outcome).symm
    · intro found
      exact ⟨_, _, rfl, Program.comes_done_done_iff.mpr ⟨rfl, congrArg Except.ok found.symm⟩⟩
  rw [picked, Option.map_eq_some_iff]
  simp only [leastName?_eq_some_iff, List.mem_map, forall_exists_index, and_imp,
    forall_apply_eq_imp_iff₂, Text.lt_iff_bytes_lt]
  constructor
  · intro found
    obtain ⟨_, ⟨⟨capability, member, rfl⟩, least⟩, isReference⟩ := found
    exact ⟨capability, member, isReference.symm, least⟩
  · intro found
    obtain ⟨capability, member, isReference, least⟩ := found
    exact ⟨capability.name, ⟨⟨capability, member, rfl⟩, least⟩, isReference.symm⟩

namespace Provision

/-- For every requester and requirement: two calls that are told the same, their listings in whatever
order, make the same calls and end the same; two that draw different names in the labeled scope do so
up to the name.  What a lookup by labels picks is the least of its listing, and so is the reference
that is discovered; a choice of a reference does not depend on the order either. -/
theorem provide_ignores_listing_order (operatorNamespace : String) (requester : Requester)
    (requirement : Requirement) (timeout : Duration) :
    (∀ serial otherSerial, (requirement.effectiveScope = .labeled → serial = otherSerial) →
      SameForListings (provide operatorNamespace serial requester requirement timeout)
        (provide operatorNamespace otherSerial requester requirement timeout)) ∧
    (requirement.effectiveScope = .labeled → ∀ serial otherSerial one other,
      one = Placement.labeledName requirement serial →
      other = Placement.labeledName requirement otherSerial →
      ∀ exchanges others left otherLeft,
        (provide operatorNamespace serial requester requirement timeout).Comes exchanges left →
        (provide operatorNamespace otherSerial requester requirement timeout).Comes others
          otherLeft →
        Program.AnsweredAlike (CapabilityCall.Renames requester.namespaceName one other)
          (CapabilityCall.TellsAlike requester.namespaceName one other) exchanges others →
        (exchanges.length = others.length ∨ left.IsFinished ∧ otherLeft.IsFinished) →
        exchanges.Forall₂ (fun exchange otherExchange =>
          exchange.request.Renames requester.namespaceName one other otherExchange.request)
          others ∧
        ∀ outcome otherOutcome, left = .done outcome → otherLeft = .done otherOutcome →
          EndRenames requester.namespaceName one other outcome otherOutcome) ∧
    (∀ namespaceName labels listed capability, (listed.map key).Nodup →
      ((find (.byLabels (some namespaceName) labels)).run.Comes
          [⟨.listIn namespaceName labels, .ok listed⟩] (.done (.ok (some capability))) ↔
        IsLeastOf capability listed) ∧
      ((find (.byLabels none labels)).run.Comes
          [⟨.listAll labels, .ok listed⟩] (.done (.ok (some capability))) ↔
        IsLeastOf capability listed)) ∧
    (∀ namespaceName kind,
      SameForListings (Reference.discover namespaceName kind)
        (Reference.discover namespaceName kind) ∧
      ∀ listed reference, (Reference.discover namespaceName kind).Comes
          [⟨.listIn namespaceName (StringMap.empty.insert Conventions.kindLabel kind.label),
            .ok listed⟩] (.done (.ok (some reference))) ↔
        ∃ capability ∈ listed, reference = .qualified namespaceName capability.name ∧
          ∀ other ∈ listed, ¬ Text.bytes other.name < Text.bytes capability.name) ∧
    ∀ kind stated?,
      SameForListings ((Reference.choose requester kind stated?).expand Reference.answerCall)
        ((Reference.choose requester kind stated?).expand Reference.answerCall) := by
  refine ⟨fun serial otherSerial sameDraw => ?_, ?_, ?_, ?_, fun kind stated? => ?_⟩
  · have keeps : Keeps "" "" ""
        (provide operatorNamespace serial requester requirement timeout)
        (provide operatorNamespace otherSerial requester requirement timeout) :=
      keeps_provide (draws_same sameDraw)
    exact sameForListings_of_inStep (keeps.imp fun _ _ => EndRenames.eq)
  · intro labeled serial otherSerial one other isOne isOther exchanges others left otherLeft comes
      otherComes told level
    have keeps : Keeps requester.namespaceName one other
        (provide operatorNamespace serial requester requirement timeout)
        (provide operatorNamespace otherSerial requester requirement timeout) := by
      rw [isOne, isOther]
      exact keeps_provide (draws_labeled labeled serial otherSerial)
    obtain ⟨asked, rest⟩ := keeps.of_goes comes otherComes told level
    refine ⟨asked, fun outcome otherOutcome isDone otherDone => ?_⟩
    rw [isDone, otherDone] at rest
    cases rest with
    | done alike => exact alike
  · intro namespaceName labels listed capability distinct
    exact ⟨find_picks_least distinct rfl capability, find_picks_least distinct rfl capability⟩
  · intro namespaceName kind
    have same : SameForListings (Reference.discover namespaceName kind)
        (Reference.discover namespaceName kind) :=
      sameForListings_of_inStep (Reference.inStep_discover "" "" namespaceName kind)
    exact ⟨same, fun _ => Reference.discover_picks_least⟩
  · exact sameForListings_of_inStep (Reference.inStep_choose "" "" requester kind stated?)

/-- A database of the namespace that nobody has settled yet. -/
def namedDatabase (name : String) : Capability where
  metadata :=
    { name := some name
      namespaceName := some "retail"
      labels := some (Placement.labels { capability := .dbms }) }
  spec := { capability := .dbms, scope := some .namespaced }

/-- Two databases of a namespace are listed either way: the requester's call goes on in the same way,
with the one whose name comes first. -/
theorem provide_ignores_listing_order_of_two :
    (([namedDatabase "beta", namedDatabase "alpha"].map key).Nodup ∧
      (find (.byLabels (some "retail") .empty)).run.Comes
        [⟨.listIn "retail" .empty, .ok [namedDatabase "beta", namedDatabase "alpha"]⟩]
        (.done (.ok (some (namedDatabase "alpha"))))) ∧
    ∃ left otherLeft,
      (provide "ops" 7 ⟨"shop", "retail"⟩ { capability := .dbms } ⟨30⟩).Comes
        [⟨.listIn "retail" (Lookup.sharedLabels { capability := .dbms }),
          .ok [namedDatabase "beta", namedDatabase "alpha"]⟩] left ∧
      (provide "ops" 8 ⟨"shop", "retail"⟩ { capability := .dbms } ⟨30⟩).Comes
        [⟨.listIn "retail" (Lookup.sharedLabels { capability := .dbms }),
          .ok [namedDatabase "alpha", namedDatabase "beta"]⟩] otherLeft ∧
      left.standing = otherLeft.standing := by
  have order := provide_ignores_listing_order "ops" ⟨"shop", "retail"⟩ { capability := .dbms }
    ⟨30⟩
  have distinct : ([namedDatabase "beta", namedDatabase "alpha"].map key).Nodup := by decide
  have least : IsLeastOf (namedDatabase "alpha")
      [namedDatabase "beta", namedDatabase "alpha"] := by
    refine ⟨by decide, fun other member apart => ?_⟩
    rcases List.mem_cons.mp member with rfl | isLeast
    · exact Or.inr (by decide +kernel)
    · exact absurd (List.mem_singleton.mp isLeast) apart
  have planned : Lookup.plan ⟨"shop", "retail"⟩ { capability := .dbms } =
      .ok (.byLabels (some "retail") (Lookup.sharedLabels { capability := .dbms })) := rfl
  refine ⟨⟨distinct, (order.2.2.1 _ _ _ _ distinct).1.mpr least⟩, ?_⟩
  have comes : ∀ serial listed, ∃ left,
      (provide "ops" serial ⟨"shop", "retail"⟩ { capability := .dbms } ⟨30⟩).Comes
        [⟨.listIn "retail" (Lookup.sharedLabels { capability := .dbms }), .ok listed⟩] left := by
    intro serial listed
    rw [provide_eq_call _ _ _ _ _ _ planned]
    exact ⟨_, .call trivial (.still _ _)⟩
  obtain ⟨left, front⟩ := comes 7 [namedDatabase "beta", namedDatabase "alpha"]
  obtain ⟨otherLeft, back⟩ := comes 8 [namedDatabase "alpha", namedDatabase "beta"]
  refine ⟨left, otherLeft, front, back,
    (order.1 7 8 (by decide) _ _ _ _ front back ?_ (Or.inl rfl)).2⟩
  intro request answer told member
  cases List.mem_singleton.mp member
  exact .ok ⟨.swap _ _ _, distinct⟩

end Provision

end Provisioning
