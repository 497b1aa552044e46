import Mathlib.Logic.Relation
import Provisioning.Proofs.QuietCluster
import Provisioning.Proofs.Ways

/-!
# A cluster that is tended

A cluster in which others take their turns before a call is answered: controllers report that what
was requested serves, and others may request capabilities of their own.  Nothing is removed, labels
do not change, and what is settled is final (`becomes_of_bustles`).  Calls are answered truthfully.

Main statement: the clusters that a call passes on its way to each of its ends (`course_of_tended`).
-/

namespace Provisioning

open ClusterObject

/-! ## Turns of others -/

/-- A controller reports that a requested capability serves. -/
inductive Tends : Store Capability → Store Capability → Prop where
  | served {store : Store Capability} {capability : Capability} {status : CapabilityStatus}
      (member : capability ∈ store.objects) (requested : capability.phase = .requested)
      (serves : status.Serves) : Tends store (store.put { capability with status := some status })

/-- A controller takes its turn, or someone requests a capability. -/
inductive Bustles : Store Capability → Store Capability → Prop where
  | tended {before after : Store Capability} (tends : Tends before after) : Bustles before after
  | requested {store : Store Capability} {capability : Capability}
      (free : store.find? (key capability) = none) (requested : capability.phase = .requested) :
      Bustles store (store.put capability)

namespace Capability

/-- A capability serves, as far as its status goes. -/
def Serves (capability : Capability) : Prop :=
  ∃ status, capability.status = some status ∧ status.Serves

/-- What a capability can have become: itself, or served if it was requested. -/
def Becomes (earlier later : Capability) : Prop :=
  later = earlier ∨ earlier.phase = .requested ∧
    ∃ status : CapabilityStatus, status.Serves ∧ later = { earlier with status := some status }

variable {first second third capability : Capability}

theorem Serves.phase (serves : capability.Serves) : capability.phase = .successful := by
  obtain ⟨status, isStatus, successful, _⟩ := serves
  rw [Capability.phase, isStatus]
  exact successful

theorem Becomes.key_eq (becomes : first.Becomes second) : key second = key first := by
  rcases becomes with rfl | ⟨_, _, _, rfl⟩
  · rfl
  · rfl

theorem Becomes.labels_eq (becomes : first.Becomes second) : second.labels = first.labels := by
  rcases becomes with rfl | ⟨_, _, _, rfl⟩
  · rfl
  · rfl

theorem Becomes.eq_or_serves (becomes : first.Becomes second) :
    second = first ∨ first.phase = .requested ∧ second.Serves := by
  rcases becomes with rfl | ⟨requested, status, serves, rfl⟩
  · exact Or.inl rfl
  · exact Or.inr ⟨requested, status, rfl, serves⟩

/-- What was settled is final. -/
theorem Becomes.eq_of_settled (becomes : first.Becomes second)
    (settled : first.phase.isTerminal = true) : second = first := by
  rcases becomes with same | ⟨requested, _⟩
  · exact same
  · rw [requested] at settled
    cases settled

/-- What was not settled, and is, was requested and serves. -/
theorem Becomes.serves_of_settled (becomes : first.Becomes second)
    (unsettled : first.phase.isTerminal = false) (settled : second.phase.isTerminal = true) :
    first.phase = .requested ∧ second.Serves := by
  rcases becomes.eq_or_serves with same | served
  · rw [same, unsettled] at settled
    cases settled
  · exact served

theorem Becomes.trans (front : first.Becomes second) (back : second.Becomes third) :
    first.Becomes third := by
  rcases front with rfl | ⟨requested, status, serves, rfl⟩
  · exact back
  · have serving : Serves { first with status := some status } := ⟨status, rfl, serves⟩
    have settled := isTerminal_of_successful serving.phase
    exact Or.inr ⟨requested, status, serves, back.eq_of_settled settled⟩

/-- A capability gives a result exactly if it serves and lives in a namespace. -/
theorem exists_result_iff :
    (∃ result, ProvisionResult.ofCapability capability = .ok result) ↔
      capability.home ≠ "" ∧ capability.Serves := by
  constructor
  · rintro ⟨result, given⟩
    obtain ⟨successful, housed, server, service, primary, named, _⟩ :=
      ProvisionResult.ofCapability_eq_ok_iff.mp given
    refine ⟨housed, ?_⟩
    cases isStatus : capability.status with
    | none =>
        rw [Capability.phase, isStatus] at successful
        cases successful
    | some status =>
        rw [Capability.phase, isStatus] at successful
        rw [Capability.primaryServer?, isStatus] at primary
        exact ⟨status, isStatus, successful, server, service, primary, named⟩
  · rintro ⟨housed, status, isStatus, serves⟩
    obtain ⟨result, given, _⟩ := ProvisionResult.ofCapability_of_serves capability serves housed
    have same : ({ capability with status := some status } : Capability) = capability := by
      rw [← isStatus]
    exact ⟨result, same ▸ given⟩

end Capability

/-! ## What becomes of a cluster -/

section Clusters

variable {before after initial : Store Capability}

theorem Tends.becomes (tends : Tends before after) :
    ∀ capability ∈ before.objects, ∃ later ∈ after.objects, capability.Becomes later := by
  cases tends with
  | @served served status member requested serves =>
      intro capability capabilityMember
      by_cases sameKey : key capability = key served
      · have isServed := Store.eq_of_key_eq capabilityMember member sameKey
        exact ⟨_, Store.mem_put_self,
          Or.inr ⟨isServed ▸ requested, status, serves, isServed ▸ rfl⟩⟩
      · exact ⟨capability, Store.mem_put_iff.mpr (Or.inr ⟨capabilityMember, sameKey⟩), Or.inl rfl⟩

theorem Bustles.becomes (bustles : Bustles before after) :
    ∀ capability ∈ before.objects, ∃ later ∈ after.objects, capability.Becomes later := by
  cases bustles with
  | tended tends => exact tends.becomes
  | requested free requested =>
      intro capability member
      have otherKey := Store.find?_eq_none_iff.mp free capability member
      exact ⟨capability, Store.mem_put_iff.mpr (Or.inr ⟨member, otherKey⟩), Or.inl rfl⟩

/-- What was there is still there, as it was or served. -/
theorem becomes_of_bustles (turns : Relation.ReflTransGen Bustles before after)
    {capability : Capability} (member : capability ∈ before.objects) :
    ∃ later ∈ after.objects, capability.Becomes later := by
  induction turns with
  | refl => exact ⟨capability, member, Or.inl rfl⟩
  | tail _ turn inductionHypothesis =>
      obtain ⟨between, betweenMember, front⟩ := inductionHypothesis
      obtain ⟨later, laterMember, back⟩ := turn.becomes between betweenMember
      exact ⟨later, laterMember, front.trans back⟩

/-- What a key leads to has become what it leads to later. -/
theorem find?_of_bustles (turns : Relation.ReflTransGen Bustles before after) {place : ObjectKey}
    {capability : Capability} (there : before.find? place = some capability) :
    ∃ later, after.find? place = some later ∧ capability.Becomes later := by
  obtain ⟨member, isKey⟩ := Store.find?_eq_some_iff.mp there
  obtain ⟨later, laterMember, becomes⟩ := becomes_of_bustles turns member
  exact ⟨later, Store.find?_eq_some_iff.mpr ⟨laterMember, becomes.key_eq.trans isKey⟩, becomes⟩

theorem becomes_of_find? (turns : Relation.ReflTransGen Bustles before after) {place : ObjectKey}
    {earlier later : Capability} (was : before.find? place = some earlier)
    (isThere : after.find? place = some later) : earlier.Becomes later := by
  obtain ⟨other, isOther, becomes⟩ := find?_of_bustles turns was
  rw [isThere, Option.some.injEq] at isOther
  exact isOther ▸ becomes

/-- Nothing that is in a cluster came there but requested, or served since. -/
def ComesRequested (initial store : Store Capability) : Prop :=
  ∀ capability ∈ store.objects, initial.find? (key capability) = none →
    capability.phase = .requested ∨ capability.Serves

private theorem Bustles.comesRequested (bustles : Bustles before after)
    (comes : ComesRequested initial before) : ComesRequested initial after := by
  intro capability member isNew
  cases bustles with
  | tended tends =>
      cases tends with
      | @served served status servedMember requested serves =>
          rcases Store.mem_put_iff.mp member with rfl | ⟨inBefore, _⟩
          · exact Or.inr ⟨status, rfl, serves⟩
          · exact comes capability inBefore isNew
  | requested free requested =>
      rcases Store.mem_put_iff.mp member with rfl | ⟨inBefore, _⟩
      · exact Or.inl requested
      · exact comes capability inBefore isNew

theorem comesRequested_of_bustles (turns : Relation.ReflTransGen Bustles initial after) :
    ComesRequested initial after := by
  induction turns with
  | refl =>
      intro capability member isNew
      exact absurd rfl (Store.find?_eq_none_iff.mp isNew capability member)
  | tail _ turn inductionHypothesis => exact turn.comesRequested inductionHypothesis

theorem bustles_of_tends (turns : Relation.ReflTransGen Tends before after) :
    Relation.ReflTransGen Bustles before after :=
  Relation.ReflTransGen.mono (fun _ _ => Bustles.tended) _ _ turns

theorem Tends.concludes (tends : Tends before after) : Concludes before after := by
  cases tends with
  | @served served status member requested serves =>
      exact .settled member requested (Capability.isTerminal_of_successful serves.1) ⟨rfl, rfl⟩

/-- Controllers create nothing, remove nothing and change no labels. -/
theorem retains_of_tends (turns : Relation.ReflTransGen Tends before after) :
    Retains before after := by
  induction turns with
  | refl => exact .refl _
  | tail _ turn inductionHypothesis => exact inductionHypothesis.trans turn.concludes.retains

/-- What a lookup finds is what it found before, as it was or served. -/
theorem firstIn_of_tends {lookup : Lookup} {found : Capability}
    (turns : Relation.ReflTransGen Tends before after)
    (isFirst : lookup.firstIn after = some found) :
    ∃ earlier, lookup.firstIn before = some earlier ∧ earlier.Becomes found := by
  have retains := retains_of_tends turns
  cases initially : lookup.firstIn before with
  | none =>
      rw [retains.firstIn_eq_none initially] at isFirst
      cases isFirst
  | some earlier =>
      obtain ⟨present, isPresent, same⟩ := retains.firstIn initially
      obtain ⟨later, laterMember, becomes⟩ := becomes_of_bustles (bustles_of_tends turns)
        (Lookup.firstIn_eq_some_iff.mp initially).1
      rw [isPresent, Option.some.injEq] at isFirst
      have member := (Lookup.firstIn_eq_some_iff.mp isPresent).1
      have isLater := Store.eq_of_key_eq laterMember member (becomes.key_eq.trans same.1.symm)
      exact ⟨earlier, rfl, isFirst ▸ isLater ▸ becomes⟩

end Clusters

/-! ## How calls are answered -/

/-- How a wait can end: with the capability once it is settled, or given up. -/
def EndsWait (store : Store Capability) (place : ObjectKey) : Wait.End Capability → Prop
  | .met object => store.find? place = some object ∧ object.phase.isTerminal = true
  | .failed error => (ProvisioningError.ofWait error).isRetryable = true
  | .beyondClock => True

/-- How a call is answered after others took their turns. -/
def Tended (defaults : Defaults) (acts : Store Capability → Store Capability → Prop)
    (before : Store Capability) : (request : CapabilityCall) → request.Answer →
      Store Capability → Prop :=
  RepliesAfter defaults (Relation.ReflTransGen acts)
    (fun after place _ outcome => EndsWait after place outcome) before

section Answers

variable {defaults : Defaults} {acts more : Store Capability → Store Capability → Prop}
  {start middle after : Store Capability} {request : CapabilityCall} {answer : request.Answer}

theorem Tended.mono (fewer : ∀ before after, acts before after → more before after)
    (answered : Tended defaults acts start request answer after) :
    Tended defaults more start request answer after :=
  RepliesAfter.mono (fun _ reached => Relation.ReflTransGen.mono fewer _ _ reached) answered

theorem Tended.of_turns (turns : Relation.ReflTransGen acts start middle)
    (answered : Tended defaults acts middle request answer after) :
    Tended defaults acts start request answer after :=
  RepliesAfter.mono (fun _ => turns.trans) answered

theorem tended_of_replies
    (replied : Replies defaults start request answer after) :
    Tended defaults acts start request answer after := by
  cases request with
  | awaitSettled namespaceName name timeout =>
      obtain ⟨⟨object, member, isNamed, settled, rfl⟩, rfl⟩ := replied
      exact ⟨.refl, Store.find?_eq_some_iff.mpr ⟨member, isNamed⟩, settled⟩
  | get namespaceName name => exact ⟨start, .refl, replied⟩
  | listIn namespaceName labels => exact ⟨start, .refl, replied⟩
  | listAll labels => exact ⟨start, .refl, replied⟩
  | create capability => exact ⟨start, .refl, replied⟩
  | loadDefaults => exact ⟨start, .refl, replied⟩

end Answers

/-! ## The course of a call -/

namespace Provision

section Courses

variable (acts : Store Capability → Store Capability → Prop) (requirement : Requirement)
  (lookup : Lookup) (built : Capability) (start : Store Capability)

/-- A call has created its capability, or has taken a valid one that has its place. -/
inductive Placed : Capability → Store Capability → Prop where
  | created {seen free : Store Capability} (toSeen : Relation.ReflTransGen acts start seen)
      (missed : lookup.firstIn seen = none) (toFree : Relation.ReflTransGen acts seen free)
      (isFree : free.find? (key built) = none) : Placed built (free.put built)
  | adopted {seen taken made : Store Capability} {other existing : Capability}
      (toSeen : Relation.ReflTransGen acts start seen) (missed : lookup.firstIn seen = none)
      (toTaken : Relation.ReflTransGen acts seen taken)
      (isTaken : taken.find? (key built) = some other)
      (toMade : Relation.ReflTransGen acts taken made)
      (isThere : made.find? (key built) = some existing)
      (valid : existing.validate requirement = .ok ()) : Placed existing made

/-- How a call ends, and the clusters that it passes. -/
inductive Course : CapabilityProgram (Except ProvisioningError ProvisionResult) →
    Store Capability → Prop where
  | invalid {finish : Store Capability} {found : Capability} {error : ProvisioningError}
      (toFinish : Relation.ReflTransGen acts start finish)
      (isFirst : lookup.firstIn finish = some found)
      (invalid : found.validate requirement = .error error) : Course (.done (.error error)) finish
  | settled {finish : Store Capability} {found : Capability}
      (toFinish : Relation.ReflTransGen acts start finish)
      (isFirst : lookup.firstIn finish = some found)
      (valid : found.validate requirement = .ok ()) (settled : found.phase.isTerminal = true) :
      Course (.done (ProvisionResult.ofCapability found)) finish
  | awaited {seen finish : Store Capability} {found ready : Capability}
      (toSeen : Relation.ReflTransGen acts start seen) (isFirst : lookup.firstIn seen = some found)
      (valid : found.validate requirement = .ok ()) (unsettled : found.phase.isTerminal = false)
      (toFinish : Relation.ReflTransGen acts seen finish)
      (isReady : finish.find? (key found) = some ready) (settled : ready.phase.isTerminal = true) :
      Course (.done (ProvisionResult.ofCapability ready)) finish
  /-- A wait is given up. -/
  | givenUp {finish : Store Capability} {error : ProvisioningError}
      (retryable : error.isRetryable = true) : Course (.done (.error error)) finish
  | broken {finish : Store Capability} (message : String) : Course (.abort message) finish
  /-- What has the place cannot be taken. -/
  | clashed {seen taken finish : Store Capability} {other existing : Capability}
      {error : ProvisioningError} (toSeen : Relation.ReflTransGen acts start seen)
      (missed : lookup.firstIn seen = none) (toTaken : Relation.ReflTransGen acts seen taken)
      (isTaken : taken.find? (key built) = some other)
      (toFinish : Relation.ReflTransGen acts taken finish)
      (isThere : finish.find? (key built) = some existing)
      (invalid : existing.validate requirement = .error error) : Course (.done (.error error)) finish
  | vanished {seen taken finish : Store Capability} {other : Capability}
      {error : ProvisioningError} (toSeen : Relation.ReflTransGen acts start seen)
      (missed : lookup.firstIn seen = none) (toTaken : Relation.ReflTransGen acts seen taken)
      (isTaken : taken.find? (key built) = some other)
      (toFinish : Relation.ReflTransGen acts taken finish)
      (isGone : finish.find? (key built) = none) : Course (.done (.error error)) finish
  | failed {made finish : Store Capability} {target ready : Capability}
      (placed : Placed acts requirement lookup built start target made)
      (toFinish : Relation.ReflTransGen acts made finish)
      (isReady : finish.find? (key target) = some ready) (failed : ready.phase = .failed) :
      Course (.done (ProvisionResult.ofCapability ready)) finish
  /-- What was placed is settled, and the lookup is made again. -/
  | resolved {made waited finish : Store Capability} {target ready resolved : Capability}
      (placed : Placed acts requirement lookup built start target made)
      (toWaited : Relation.ReflTransGen acts made waited)
      (isReady : waited.find? (key target) = some ready) (settled : ready.phase.isTerminal = true)
      (toFinish : Relation.ReflTransGen acts waited finish)
      (isFirst : lookup.firstIn finish = some resolved) :
      Course (.done (ProvisionResult.ofCapability resolved)) finish
  | missed {made waited finish : Store Capability} {target ready : Capability}
      {error : ProvisioningError}
      (placed : Placed acts requirement lookup built start target made)
      (toWaited : Relation.ReflTransGen acts made waited)
      (isReady : waited.find? (key target) = some ready) (settled : ready.phase.isTerminal = true)
      (toFinish : Relation.ReflTransGen acts waited finish)
      (missed : lookup.firstIn finish = none) : Course (.done (.error error)) finish

end Courses

section Inversion

variable {defaults : Defaults} {acts : Store Capability → Store Capability → Prop}
  {operatorNamespace : String} {serial : Serial} {requester : Requester}
  {requirement : Requirement} {timeout : Duration} {lookup : Lookup} {built : Capability}
  {start finish : Store Capability} {exchanges : List Exchange}
  {ended : CapabilityProgram (Except ProvisioningError ProvisionResult)}

theorem AwaitWay.course {target : Capability} {made : Store Capability}
    (placed : Placed acts requirement lookup built start target made)
    (way : AwaitWay (Tended defaults acts) timeout lookup target made exchanges ended finish) :
    Course acts requirement lookup built start ended finish := by
  cases way with
  | givenUp waited => exact .givenUp waited.2
  | broken => exact .broken _
  | failed waited failed given =>
      obtain ⟨toWaited, isReady, _⟩ := waited
      exact given ▸ .failed placed toWaited isReady failed
  | unread _ _ answered unread =>
      cases unread.symm.trans (Lookup.outcome_of_repliesAfter answered).2
  | missed waited _ answered missed =>
      obtain ⟨toWaited, isReady, settled⟩ := waited
      obtain ⟨toLooked, isFirst⟩ := Lookup.outcome_of_repliesAfter answered
      exact .missed placed toWaited isReady settled toLooked
        (Except.ok.inj (missed.symm.trans isFirst)).symm
  | resolved waited _ answered found given =>
      obtain ⟨toWaited, isReady, settled⟩ := waited
      obtain ⟨toLooked, isFirst⟩ := Lookup.outcome_of_repliesAfter answered
      exact given ▸ .resolved placed toWaited isReady settled toLooked
        (Except.ok.inj (found.symm.trans isFirst)).symm

theorem UseWay.course {seen : Store Capability} {found : Capability}
    (toSeen : Relation.ReflTransGen acts start seen) (isFirst : lookup.firstIn seen = some found)
    (way : UseWay (Tended defaults acts) requirement timeout found seen exchanges ended finish) :
    Course acts requirement lookup built start ended finish := by
  cases way with
  | invalid invalid => exact .invalid toSeen isFirst invalid
  | settled valid settled given => exact given ▸ .settled toSeen isFirst valid settled
  | awaited valid unsettled waited given =>
      obtain ⟨toWaited, isReady, settled⟩ := waited
      exact given ▸ .awaited toSeen isFirst valid unsettled toWaited isReady settled
  | givenUp _ _ waited => exact .givenUp waited.2
  | broken => exact .broken _

theorem CreateWay.course {seen loaded : Store Capability}
    (toSeen : Relation.ReflTransGen acts start seen) (missed : lookup.firstIn seen = none)
    (toLoaded : Relation.ReflTransGen acts seen loaded)
    (way : CreateWay (Tended defaults acts) requirement timeout lookup built loaded exchanges ended
      finish) : Course acts requirement lookup built start ended finish := by
  cases way with
  | created created awaits =>
      obtain ⟨free, toFree, isFree, rfl⟩ := RepliesAfter.free created
      exact awaits.course (.created toSeen missed (toLoaded.trans toFree) isFree)
  | refused refused untaken => cases untaken.symm.trans (RepliesAfter.taken refused).1
  | unread _ _ read => cases (RepliesAfter.read read).1
  | vanished refused _ read =>
      obtain ⟨_, toTaken, other, isTaken⟩ := RepliesAfter.taken refused
      obtain ⟨isGone, toFinish⟩ := RepliesAfter.read read
      exact .vanished toSeen missed (toLoaded.trans toTaken) isTaken toFinish
        (Except.ok.inj isGone).symm
  | clashed refused _ read invalid =>
      obtain ⟨_, toTaken, other, isTaken⟩ := RepliesAfter.taken refused
      obtain ⟨isThere, toFinish⟩ := RepliesAfter.read read
      exact .clashed toSeen missed (toLoaded.trans toTaken) isTaken toFinish
        (Except.ok.inj isThere).symm invalid
  | adopted refused _ read valid awaits =>
      obtain ⟨_, toTaken, other, isTaken⟩ := RepliesAfter.taken refused
      obtain ⟨isThere, toMade⟩ := RepliesAfter.read read
      exact awaits.course (.adopted toSeen missed (toLoaded.trans toTaken) isTaken toMade
        (Except.ok.inj isThere).symm valid)

/-- The ways of a call whose lookup is planned. -/
theorem course_of_tended (planned : Lookup.plan requester requirement = .ok lookup)
    (isBuilt : Placement.build requester requirement defaults operatorNamespace serial = .ok built)
    (isOver : IsOver ended)
    (goes : (provide operatorNamespace serial requester requirement timeout).Goes
      (Tended defaults acts) start exchanges ended finish) :
    Course acts requirement lookup built start ended finish := by
  cases (callWay_iff planned isOver).mpr goes with
  | unread answered unread => cases unread.symm.trans (Lookup.outcome_of_repliesAfter answered).2
  | found answered found uses =>
      obtain ⟨toSeen, isFirst⟩ := Lookup.outcome_of_repliesAfter answered
      exact uses.course toSeen (Except.ok.inj (found.symm.trans isFirst)).symm
  | missed answered missed provides =>
      obtain ⟨toSeen, isFirst⟩ := Lookup.outcome_of_repliesAfter answered
      have missedSeen := (Except.ok.inj (missed.symm.trans isFirst)).symm
      cases provides with
      | unloaded unloaded =>
          obtain ⟨_, _, isDefaults, _⟩ := unloaded
          cases isDefaults
      | unplaced loaded unplaced =>
          obtain ⟨_, _, isDefaults, _⟩ := loaded
          cases isDefaults
          cases isBuilt.symm.trans unplaced
      | placed loaded placed creates =>
          obtain ⟨_, toLoaded, isDefaults, rfl⟩ := loaded
          cases isDefaults
          cases isBuilt.symm.trans placed
          exact creates.course toSeen missedSeen toLoaded

end Inversion

end Provision

end Provisioning
