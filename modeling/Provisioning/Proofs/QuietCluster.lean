import Provisioning.Proofs.Origin
import Provisioning.Proofs.SharedCluster

/-!
# A quiet cluster

Nobody but the caller creates anything, nothing is removed and no labels change; controllers settle
what is requested, and what is settled is final.  In such a cluster a lookup goes on finding the same
capability, in whatever state it is by then (`Retains.firstIn`), and what a wait has seen is still
there afterwards (`quiet_of_passes`).

Main statement: what a call hands out is what its lookup finds in the cluster that it leaves behind,
and goes back to what the lookup found in the beginning or to what the call built
(`course_of_provide`).
-/

namespace Provisioning

open ClusterObject

/-- Two states of one capability, or two capabilities that no lookup tells apart. -/
def Capability.Resembles (left right : Capability) : Prop :=
  key left = key right ∧ left.labels = right.labels

/-- A controller settles a capability that is requested. -/
inductive Concludes : Store Capability → Store Capability → Prop where
  | settled {store : Store Capability} {pending ready : Capability}
      (member : pending ∈ store.objects) (requested : pending.phase = .requested)
      (terminal : ready.phase.isTerminal = true) (same : ready.Resembles pending) :
      Concludes store (store.put ready)

/-- All that is there after was there before, and the other way round, but for what does not matter
to a lookup. -/
structure Retains (before after : Store Capability) : Prop where
  kept : ∀ capability ∈ before.objects, ∃ present ∈ after.objects, present.Resembles capability
  known : ∀ present ∈ after.objects, ∃ capability ∈ before.objects, present.Resembles capability

/-- What is there after was there before, or is what was built. -/
def StemsFrom (built : Capability) (before after : Store Capability) : Prop :=
  ∀ present ∈ after.objects,
    present.Resembles built ∨ ∃ capability ∈ before.objects, present.Resembles capability

/-- What was ever settled is there as it was settled. -/
def History.Conclusive (history : History) : Prop :=
  ∀ capability, history.Held capability → capability.phase.isTerminal = true →
    capability ∈ history.now.objects

namespace Capability.Resembles

variable {first second third : Capability}

theorem refl (capability : Capability) : capability.Resembles capability :=
  ⟨rfl, rfl⟩

theorem trans (front : first.Resembles second) (back : second.Resembles third) :
    first.Resembles third :=
  ⟨front.1.trans back.1, front.2.trans back.2⟩

theorem matched {lookup : Lookup} (same : first.Resembles second) :
    lookup.matchesCapability first = lookup.matchesCapability second :=
  Lookup.matchesCapability_congr same.1 same.2

theorem validate_iff {requirement : Requirement} (same : first.Resembles second) :
    first.validate requirement = .ok () ↔ second.validate requirement = .ok () :=
  validate_congr same.2

/-- Validation says the same of both, also in its error. -/
theorem validate_eq {requirement : Requirement} (same : first.Resembles second) :
    first.validate requirement = second.validate requirement := by
  have sameHome : first.home = second.home := congrArg ObjectKey.namespaceName same.1
  have sameName : first.name = second.name := congrArg ObjectKey.name same.1
  have samePath : first.path = second.path := by
    rw [path, path, sameHome, sameName]
  have sameScope : first.scopeLabel? = second.scopeLabel? := by
    rw [scopeLabel?, scopeLabel?, label?, label?, same.2]
  have sameImplementation : first.implementationLabel? = second.implementationLabel? := by
    rw [implementationLabel?, implementationLabel?, label?, label?, same.2]
  rw [validate, validate, samePath, sameScope, sameImplementation]

end Capability.Resembles

/-! ## What a controller leaves as it is -/

section Stores

variable {first second third : Store Capability} {built : Capability} {lookup : Lookup}

theorem Retains.refl (store : Store Capability) : Retains store store where
  kept capability member := ⟨capability, member, .refl capability⟩
  known capability member := ⟨capability, member, .refl capability⟩

theorem Retains.trans (front : Retains first second) (back : Retains second third) :
    Retains first third where
  kept capability member := by
    obtain ⟨between, betweenMember, sameFront⟩ := front.kept capability member
    obtain ⟨present, presentMember, sameBack⟩ := back.kept between betweenMember
    exact ⟨present, presentMember, sameBack.trans sameFront⟩
  known present member := by
    obtain ⟨between, betweenMember, sameBack⟩ := back.known present member
    obtain ⟨capability, capabilityMember, sameFront⟩ := front.known between betweenMember
    exact ⟨capability, capabilityMember, sameBack.trans sameFront⟩

theorem Concludes.retains (concludes : Concludes first second) : Retains first second := by
  cases concludes with
  | @settled pending ready member requested terminal same =>
      constructor
      · intro capability capabilityMember
        by_cases sameKey : key capability = key ready
        · have isPending : capability = pending :=
            Store.eq_of_key_eq capabilityMember member (sameKey.trans same.1)
          rw [isPending]
          exact ⟨ready, Store.mem_put_self, same⟩
        · exact ⟨capability, Store.mem_put_iff.mpr (Or.inr ⟨capabilityMember, sameKey⟩),
            .refl capability⟩
      · intro present presentMember
        rcases Store.mem_put_iff.mp presentMember with isReady | ⟨inStore, _⟩
        · rw [isReady]
          exact ⟨pending, member, same⟩
        · exact ⟨present, inStore, .refl present⟩

theorem Retains.firstIn_eq_none (retains : Retains first second)
    (missed : lookup.firstIn first = none) : lookup.firstIn second = none := by
  rw [Lookup.firstIn_eq_none_iff] at missed ⊢
  intro present member
  obtain ⟨capability, capabilityMember, same⟩ := retains.known present member
  rw [same.matched]
  exact missed capability capabilityMember

/-- A lookup goes on finding the same capability. -/
theorem Retains.firstIn (retains : Retains first second) {found : Capability}
    (isFirst : lookup.firstIn first = some found) :
    ∃ present, lookup.firstIn second = some present ∧ present.Resembles found := by
  obtain ⟨foundMember, foundMatched, notBelow⟩ := Lookup.firstIn_eq_some_iff.mp isFirst
  obtain ⟨present, member, same⟩ := retains.kept found foundMember
  refine ⟨present, Lookup.firstIn_eq_some_iff.mpr
    ⟨member, same.matched.trans foundMatched, ?_⟩, same⟩
  intro other otherMember otherMatched below
  obtain ⟨earlier, earlierMember, sameOther⟩ := retains.known other otherMember
  rw [same.1, sameOther.1] at below
  exact notBelow earlier earlierMember (sameOther.matched.symm.trans otherMatched) below

theorem Retains.firstIn_eq_none_iff (retains : Retains first second) :
    lookup.firstIn second = none ↔ lookup.firstIn first = none := by
  refine ⟨?_, retains.firstIn_eq_none⟩
  intro missed
  cases initially : lookup.firstIn first with
  | none => rfl
  | some found =>
      obtain ⟨present, isPresent, _⟩ := retains.firstIn initially
      rw [isPresent] at missed
      cases missed

theorem Retains.find?_eq_some (retains : Retains first second) {place : ObjectKey}
    {found : Capability} (there : first.find? place = some found) :
    ∃ present, second.find? place = some present ∧ present.Resembles found := by
  obtain ⟨member, atPlace⟩ := Store.find?_eq_some_iff.mp there
  obtain ⟨present, presentMember, same⟩ := retains.kept found member
  exact ⟨present, Store.find?_eq_some_iff.mpr ⟨presentMember, same.1.trans atPlace⟩, same⟩

theorem Retains.find?_eq_none (retains : Retains first second) {place : ObjectKey}
    (free : first.find? place = none) : second.find? place = none := by
  rw [Store.find?_eq_none_iff] at free ⊢
  intro present member
  obtain ⟨capability, capabilityMember, same⟩ := retains.known present member
  rw [same.1]
  exact free capability capabilityMember

theorem Retains.find?_eq_none_iff (retains : Retains first second) {place : ObjectKey} :
    second.find? place = none ↔ first.find? place = none := by
  refine ⟨?_, retains.find?_eq_none⟩
  intro free
  cases initially : first.find? place with
  | none => rfl
  | some found =>
      obtain ⟨present, isPresent, _⟩ := retains.find?_eq_some initially
      rw [isPresent] at free
      cases free

theorem Retains.stemsFrom (retains : Retains first second) : StemsFrom built first second :=
  fun present member => Or.inr (retains.known present member)

theorem StemsFrom.trans (front : StemsFrom built first second)
    (back : StemsFrom built second third) : StemsFrom built first third := by
  intro present member
  rcases back present member with isBuilt | ⟨between, betweenMember, same⟩
  · exact Or.inl isBuilt
  · rcases front between betweenMember with isBuilt | ⟨capability, capabilityMember, sameFront⟩
    · exact Or.inl (same.trans isBuilt)
    · exact Or.inr ⟨capability, capabilityMember, same.trans sameFront⟩

theorem stemsFrom_put (store : Store Capability) (built : Capability) :
    StemsFrom built store (store.put built) := by
  intro present member
  rcases Store.mem_put_iff.mp member with isBuilt | ⟨inStore, _⟩
  · rw [isBuilt]
    exact Or.inl (.refl built)
  · exact Or.inr ⟨present, inStore, .refl present⟩

/-- Where a lookup found nothing, it finds what was built. -/
theorem StemsFrom.resembles (stems : StemsFrom built first second) {found : Capability}
    (missed : lookup.firstIn first = none) (isFirst : lookup.firstIn second = some found) :
    found.Resembles built := by
  have listed := List.mem_filter.mp (Provision.mem_of_first? isFirst)
  rcases stems found listed.1 with isBuilt | ⟨capability, member, same⟩
  · exact isBuilt
  · have unmatched := Lookup.firstIn_eq_none_iff.mp missed capability member
    rw [← same.matched, listed.2] at unmatched
    cases unmatched

end Stores

/-! ## What is settled is final -/

section Conclusions

variable {before after : History}

theorem History.Conclusive.record {history : History} {store : Store Capability}
    (conclusive : history.Conclusive)
    (kept : ∀ capability ∈ history.now.objects, capability.phase.isTerminal = true →
      capability ∈ store.objects) :
    (history.record store).Conclusive := by
  intro capability held terminal
  rcases History.held_record_iff.mp held with member | heldBefore
  · exact member
  · exact kept capability (conclusive capability heldBefore terminal) terminal

theorem Concludes.keeps {store later : Store Capability} (concludes : Concludes store later)
    {capability : Capability} (member : capability ∈ store.objects)
    (terminal : capability.phase.isTerminal = true) : capability ∈ later.objects := by
  cases concludes with
  | @settled pending ready pendingMember requested _ same =>
      refine Store.mem_put_iff.mpr (Or.inr ⟨member, ?_⟩)
      intro sameKey
      have isPending : capability = pending :=
        Store.eq_of_key_eq member pendingMember (sameKey.trans same.1)
      rw [isPending, requested] at terminal
      cases terminal

theorem quiet_of_passes (passes : Passes Concludes before after) :
    Retains before.now after.now ∧ (before.Conclusive → after.Conclusive) := by
  induction passes with
  | refl => exact ⟨.refl _, id⟩
  | tail _ change inductionHypothesis =>
      obtain ⟨store, concludes, rfl⟩ := change
      obtain ⟨retains, conclusive⟩ := inductionHypothesis
      refine ⟨retains.trans concludes.retains, ?_⟩
      intro conclusiveBefore
      exact (conclusive conclusiveBefore).record fun _ member => concludes.keeps member

private theorem conclusive_start (store : Store Capability) : History.Conclusive ⟨store, []⟩ := by
  intro capability held _
  obtain ⟨other, recorded, member⟩ := held
  rw [List.mem_singleton.mp recorded] at member
  exact member

end Conclusions

/-! ## The parts of a call -/

namespace Provision

variable {before after : History}

private theorem stemsFrom_of_create {built : Capability} {answer : Except Failure Capability}
    (answered : Answered Concludes before (.create built) answer after) :
    StemsFrom built before.now after.now := by
  obtain ⟨middle, passes, outcome⟩ := answered
  have beforehand : StemsFrom built before.now middle.now := (quiet_of_passes passes).1.stemsFrom
  rcases outcome with ⟨store, made, rfl⟩ | ⟨_, _, rfl⟩
  · obtain ⟨_, rfl⟩ := Store.create_eq_ok_iff.mp made
    exact beforehand.trans (stemsFrom_put middle.now built)
  · exact beforehand

section Parts

variable {requirement : Requirement} {timeout : Duration} {lookup : Lookup}
  {exchanges : List Exchange} {result : ProvisionResult}

/-- What is used of what a lookup has found is what the lookup finds afterwards. -/
theorem UseWay.firstIn {found : Capability} (conclusive : before.Conclusive)
    (isFirst : lookup.firstIn before.now = some found)
    (way : UseWay (Answered Concludes) requirement timeout found before exchanges
      (.done (.ok result)) after) :
    found.validate requirement = .ok () ∧
      ∃ capability, ProvisionResult.ofCapability capability = .ok result ∧
        lookup.firstIn after.now = some capability ∧ capability.Resembles found := by
  cases way with
  | settled valid _ given => exact ⟨valid, found, given, isFirst, .refl found⟩
  | @awaited capability _ _ valid _ waited given =>
      obtain ⟨retains, concludes⟩ := quiet_of_passes (passes_of_wait waited)
      obtain ⟨settled, sameKey, held⟩ := settled_of_answered waited
      obtain ⟨present, isPresent, same⟩ := retains.firstIn isFirst
      -- What was seen settled is there as it was seen, and a key leads to one capability.
      have seen : capability ∈ after.now.objects := concludes conclusive capability held settled
      have listed := List.mem_filter.mp (mem_of_first? isPresent)
      have isSeen : present = capability :=
        Store.eq_of_key_eq listed.1 seen (same.1.trans sameKey.symm)
      rw [isSeen] at isPresent same
      exact ⟨valid, capability, given, isPresent, same⟩

theorem CreateWay.firstIn {built : Capability}
    (way : CreateWay (Answered Concludes) requirement timeout lookup built before exchanges
      (.done (.ok result)) after) :
    StemsFrom built before.now after.now ∧
      ∃ capability, ProvisionResult.ofCapability capability = .ok result ∧
        lookup.firstIn after.now = some capability := by
  cases way with
  | created created awaits =>
      obtain ⟨passes, isLast⟩ := awaits.firstIn
      exact ⟨(stemsFrom_of_create created).trans (quiet_of_passes passes).1.stemsFrom, isLast⟩
  | adopted refused _ read _ awaits =>
      obtain ⟨passes, isLast⟩ := awaits.firstIn
      exact ⟨(stemsFrom_of_create refused).trans
        (quiet_of_passes (read.1.trans passes)).1.stemsFrom, isLast⟩

end Parts

/-! ## The whole call -/

variable {operatorNamespace : String} {serial : Serial} {requester : Requester}
  {requirement : Requirement} {timeout : Duration}

/-- What a call hands out is what its lookup then finds.  It goes back to a valid capability that the
lookup found in the beginning or, where there was none, to what the call built. -/
theorem course_of_provide {store : Store Capability} {result : ProvisionResult} {finish : History}
    (run : (provide operatorNamespace serial requester requirement timeout).EndsWith
      (Answered Concludes) ⟨store, []⟩ (.ok result) finish) :
    ∃ lookup capability, Lookup.plan requester requirement = .ok lookup ∧
      ProvisionResult.ofCapability capability = .ok result ∧
      lookup.firstIn finish.now = some capability ∧
      ((∃ found, lookup.firstIn store = some found ∧ found.validate requirement = .ok () ∧
          capability.Resembles found) ∨
        (lookup.firstIn store = none ∧ ∃ defaults built,
          Placement.build requester requirement defaults operatorNamespace serial = .ok built ∧
            capability.Resembles built)) := by
  obtain ⟨_, goes⟩ := Program.endsWith_iff_goes.mp run
  obtain ⟨lookup, planned, way⟩ := callWay_of_result goes
  cases way with
  | @found found _ _ _ _ _ answered isFound uses =>
      obtain ⟨passes, isFirst⟩ := firstIn_of_answered answered isFound
      obtain ⟨retains, conclusive⟩ := quiet_of_passes passes
      obtain ⟨valid, capability, given, isLast, same⟩ :=
        uses.firstIn (conclusive (conclusive_start store)) isFirst.symm
      cases initially : lookup.firstIn store with
      | none =>
          rw [retains.firstIn_eq_none initially] at isFirst
          cases isFirst
      | some initial =>
          obtain ⟨present, isPresent, sameInitial⟩ := retains.firstIn initially
          rw [isPresent, Option.some.injEq] at isFirst
          subst isFirst
          exact ⟨lookup, capability, planned, given, isLast, Or.inl
            ⟨initial, initially, sameInitial.validate_iff.mp valid, same.trans sameInitial⟩⟩
  | missed answered isMissed provides =>
      obtain ⟨passes, isFirst⟩ := firstIn_of_answered answered isMissed
      have retains := (quiet_of_passes passes).1
      have missed : lookup.firstIn store = none := retains.firstIn_eq_none_iff.mp isFirst.symm
      cases provides with
      | @placed defaults built _ _ _ _ loaded placed creates =>
          obtain ⟨stems, capability, given, isLast⟩ := creates.firstIn
          have front : StemsFrom built store _ :=
            (retains.trans (quiet_of_passes loaded).1).stemsFrom
          have same := (front.trans stems).resembles missed isLast
          exact ⟨lookup, capability, planned, given, isLast,
            Or.inr ⟨missed, defaults, built, placed, same⟩⟩

end Provision

end Provisioning
