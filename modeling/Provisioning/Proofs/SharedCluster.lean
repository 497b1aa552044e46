import Provisioning.Proofs.Concurrency
import Provisioning.Proofs.Courses
import Provisioning.Proofs.Exchanges
import Provisioning.Proofs.Serving

/-!
# The cluster that callers share

A cluster in which nobody acts but its callers and a controller.  Every call is answered at once
from what is there; a list comes in any order, the creation of a taken name is refused, and a
wait ends when the capability is settled.  The controller settles the capabilities that are
created, each once.

Main statement: a lookup finds the first match of the cluster, in whatever order it is listed
(`secures_find`).
-/

namespace Provisioning

open ClusterObject

/-- How a call is answered. -/
def Replies (defaults : Defaults) (before : Store Capability) :
    (request : CapabilityCall) → request.Answer → Store Capability → Prop
  | .get namespaceName name, answer, after =>
      answer = .ok (before.find? ⟨namespaceName, name⟩) ∧ after = before
  | .listIn namespaceName labels, answer, after =>
      (∃ objects, answer = .ok objects ∧
        objects.Perm (before.inNamespace namespaceName labels)) ∧ after = before
  | .listAll labels, answer, after =>
      (∃ objects, answer = .ok objects ∧ objects.Perm (before.everywhere labels)) ∧ after = before
  | .create capability, answer, after =>
      match before.create capability with
      | .ok store => answer = .ok capability ∧ after = store
      | .error failure => answer = .error failure ∧ after = before
  | .loadDefaults, answer, after => answer = .ok defaults ∧ after = before
  | .awaitSettled namespaceName name _, answer, after =>
      (∃ object ∈ before.objects, key object = ⟨namespaceName, name⟩ ∧
        object.phase.isTerminal = true ∧ answer = .met object) ∧ after = before

/-- The controller reports that a capability serves which was not there in the beginning. -/
def Settles (initial before after : Store Capability) : Prop :=
  ∃ capability ∈ before.objects, ∃ status : CapabilityStatus,
    initial.find? (key capability) = none ∧ capability.phase = .requested ∧ status.Serves ∧
      after = before.put { capability with status := some status }

/-- The calls of provisioning in a cluster whose controller settles what was not there in the
beginning. -/
def sharedCluster (defaults : Defaults) (initial : Store Capability) :
    Environment CapabilityCall CapabilityCall.Answer (Store Capability) where
  replies := Replies defaults
  acts := Settles initial

/-! ## Creations -/

section Creations

variable (defaults : Defaults) {before after : Store Capability} {capability other : Capability}
  {answer : Except Failure Capability}

theorem replies_create_of_free (free : before.find? (key capability) = none) :
    Replies defaults before (.create capability) answer after ↔
      answer = .ok capability ∧ after = before.put capability := by
  simp only [Replies, Store.create, free]

theorem replies_create_of_taken (taken : before.find? (key capability) = some other) :
    Replies defaults before (.create capability) answer after ↔
      answer = .error (.server (.refused (Store.takenResponse capability.name))) ∧
        after = before := by
  simp only [Replies, Store.create, taken]
  exact Iff.rfl

end Creations

/-- The answers are some that a call gets among others who do nothing in the meantime. -/
theorem Replies.answered {others : Store Capability → Store Capability → Prop}
    {defaults : Defaults} {history : History} {after : Store Capability}
    {request : CapabilityCall} {answer : request.Answer}
    (inReach : ∀ namespaceName name timeout, request = .awaitSettled namespaceName name timeout →
      timeout.seconds < Wait.clockReach)
    (replied : Replies defaults history.now request answer after) :
    ∃ finish : History, finish.now = after ∧ Answered others history request answer finish := by
  cases request with
  | get namespaceName name =>
      obtain ⟨rfl, rfl⟩ := replied
      refine ⟨history, rfl, .refl, ?_⟩
      rintro _ ⟨⟩
      rfl
  | listIn namespaceName labels =>
      obtain ⟨⟨objects, rfl, listed⟩, rfl⟩ := replied
      refine ⟨history, rfl, .refl, ?_⟩
      rintro _ ⟨⟩
      exact listed
  | listAll labels =>
      obtain ⟨⟨objects, rfl, listed⟩, rfl⟩ := replied
      refine ⟨history, rfl, .refl, ?_⟩
      rintro _ ⟨⟩
      exact listed
  | create capability =>
      cases found : history.now.find? (key capability) with
      | none =>
          obtain ⟨rfl, rfl⟩ := (replies_create_of_free defaults found).mp replied
          exact ⟨history.record _, rfl, history, .refl,
            Or.inl ⟨_, Store.create_eq_ok_iff.mpr ⟨found, rfl⟩, rfl⟩⟩
      | some other =>
          obtain ⟨rfl, rfl⟩ := (replies_create_of_taken defaults found).mp replied
          exact ⟨history, rfl, history, .refl, Or.inr ⟨_, rfl, rfl⟩⟩
  | loadDefaults =>
      obtain ⟨rfl, rfl⟩ := replied
      exact ⟨history, rfl, .refl⟩
  | awaitSettled namespaceName name timeout =>
      obtain ⟨⟨object, member, isNamed, terminal, rfl⟩, rfl⟩ := replied
      exact ⟨history, rfl, Provision.answered_awaitSettled (inReach _ _ _ rfl) .refl member isNamed
        terminal⟩

/-! ## Lists in any order -/

/-- In the answer to its call a lookup finds the first match, and it changes nothing. -/
theorem Lookup.outcome_of_replies {defaults : Defaults} {lookup : Lookup}
    {before after : Store Capability} {answer : lookup.request.Answer}
    (replied : Replies defaults before lookup.request answer after) :
    lookup.outcome answer = .ok (lookup.firstIn before) ∧ after = before := by
  cases lookup with
  | byName namespaceName name =>
      rw [firstIn_byName]
      exact replied
  | byLabels namespaceName? labels =>
      cases namespaceName? with
      | none =>
          obtain ⟨⟨objects, isAnswer, listed⟩, unchanged⟩ := replied
          rw [isAnswer]
          exact ⟨congrArg Except.ok (Provision.first?_of_perm listed), unchanged⟩
      | some namespaceName =>
          obtain ⟨⟨objects, isAnswer, listed⟩, unchanged⟩ := replied
          rw [isAnswer]
          exact ⟨congrArg Except.ok (Provision.first?_of_perm listed), unchanged⟩

/-! ## After the turns of others -/

/-- How a call is answered after others have taken their turns.  How a wait ends is said apart. -/
def RepliesAfter (defaults : Defaults) (turns : Store Capability → Store Capability → Prop)
    (ends : Store Capability → ObjectKey → Duration → Wait.End Capability → Prop)
    (before : Store Capability) :
    (request : CapabilityCall) → request.Answer → Store Capability → Prop
  | .awaitSettled namespaceName name timeout, outcome, after =>
      turns before after ∧ ends after ⟨namespaceName, name⟩ timeout outcome
  | request, answer, after =>
      ∃ middle, turns before middle ∧ Replies defaults middle request answer after

section Turns

variable {defaults : Defaults} {turns : Store Capability → Store Capability → Prop}
  {ends : Store Capability → ObjectKey → Duration → Wait.End Capability → Prop}
  {lookup : Lookup} {before after : Store Capability}

/-- A lookup changes nothing itself. -/
@[simp]
theorem Lookup.repliesAfter_iff {answer : lookup.request.Answer} :
    RepliesAfter defaults turns ends before lookup.request answer after ↔
      turns before after ∧ Replies defaults after lookup.request answer after := by
  have unfolded : RepliesAfter defaults turns ends before lookup.request answer after ↔
      ∃ middle, turns before middle ∧ Replies defaults middle lookup.request answer after := by
    cases lookup with
    | byName namespaceName name => exact Iff.rfl
    | byLabels namespaceName? labels =>
        cases namespaceName? with
        | none => exact Iff.rfl
        | some namespaceName => exact Iff.rfl
  rw [unfolded]
  constructor
  · rintro ⟨middle, reached, replied⟩
    obtain ⟨_, rfl⟩ := outcome_of_replies replied
    exact ⟨reached, replied⟩
  · rintro ⟨reached, replied⟩
    exact ⟨after, reached, replied⟩

theorem Lookup.outcome_of_repliesAfter {answer : lookup.request.Answer}
    (answered : RepliesAfter defaults turns ends before lookup.request answer after) :
    turns before after ∧ lookup.outcome answer = .ok (lookup.firstIn after) := by
  obtain ⟨reached, replied⟩ := repliesAfter_iff.mp answered
  exact ⟨reached, (outcome_of_replies replied).1⟩

/-- Turns that are taken before a call may as well be taken before its answer. -/
theorem RepliesAfter.mono {more : Store Capability → Store Capability → Prop}
    {start : Store Capability} (reaches : ∀ middle, turns before middle → more start middle)
    {request : CapabilityCall} {answer : request.Answer}
    (answered : RepliesAfter defaults turns ends before request answer after) :
    RepliesAfter defaults more ends start request answer after := by
  have replies : (∃ middle, turns before middle ∧ Replies defaults middle request answer after) →
      ∃ middle, more start middle ∧ Replies defaults middle request answer after := by
    rintro ⟨middle, reached, replied⟩
    exact ⟨middle, reaches middle reached, replied⟩
  cases request with
  | awaitSettled namespaceName name timeout => exact ⟨reaches after answered.1, answered.2⟩
  | get namespaceName name => exact replies answered
  | listIn namespaceName labels => exact replies answered
  | listAll labels => exact replies answered
  | create capability => exact replies answered
  | loadDefaults => exact replies answered

/-- A capability is created where its key is free. -/
theorem RepliesAfter.free {built written : Capability}
    (created : RepliesAfter defaults turns ends before (.create built) (.ok written) after) :
    ∃ free, turns before free ∧ free.find? (key built) = none ∧ after = free.put built := by
  obtain ⟨middle, reached, replied⟩ := created
  cases place : middle.find? (key built) with
  | none => exact ⟨middle, reached, place, ((replies_create_of_free defaults place).mp replied).2⟩
  | some other => cases ((replies_create_of_taken defaults place).mp replied).1

/-- A creation is refused only where the key is taken, and this is said. -/
theorem RepliesAfter.taken {built : Capability} {failure : Failure}
    (refused : RepliesAfter defaults turns ends before (.create built) (.error failure) after) :
    failure.saysTaken = true ∧ turns before after ∧
      ∃ other, after.find? (key built) = some other := by
  obtain ⟨middle, reached, replied⟩ := refused
  cases place : middle.find? (key built) with
  | none => cases ((replies_create_of_free defaults place).mp replied).1
  | some other =>
      obtain ⟨isFailure, rfl⟩ := (replies_create_of_taken defaults place).mp replied
      cases isFailure
      exact ⟨Failure.saysTaken_iff.mpr ⟨_, rfl, rfl⟩, reached, other, place⟩

theorem RepliesAfter.read {built : Capability} {answer : Except Failure (Option Capability)}
    (read : RepliesAfter defaults turns ends before (.get built.home built.name) answer after) :
    answer = .ok (after.find? (key built)) ∧ turns before after := by
  obtain ⟨_, reached, rfl, rfl⟩ := read
  exact ⟨rfl, reached⟩

end Turns

theorem Lookup.exists_reply (defaults : Defaults) (lookup : Lookup) (store : Store Capability) :
    ∃ answer, Replies defaults store lookup.request answer store := by
  cases lookup with
  | byName namespaceName name => exact ⟨_, rfl, rfl⟩
  | byLabels namespaceName? labels =>
      cases namespaceName? with
      | none => exact ⟨_, ⟨_, rfl, .refl _⟩, rfl⟩
      | some namespaceName => exact ⟨_, ⟨_, rfl, .refl _⟩, rfl⟩

namespace Provision

variable {defaults : Defaults} {initial store : Store Capability}
  {moves : Store Capability → Store Capability → Prop}

/-! ## The parts of a call that only read -/

/-- A call that changes nothing and is always answered can be relied on for what it answers. -/
theorem secures_read {request : CapabilityCall} {goal : Store Capability → request.Answer → Prop}
    (answered : ∀ reached, Relation.ReflTransGen moves store reached →
      ∃ answer, Replies defaults reached request answer reached)
    (reads : ∀ reached answer after, Replies defaults reached request answer after →
      after = reached)
    (given : ∀ reached answer, Relation.ReflTransGen moves store reached →
      Replies defaults reached request answer reached → goal reached answer) :
    Secures (sharedCluster defaults initial) (Relation.ReflTransGen moves) goal (ask request)
      store := by
  apply secures_ask
  · intro reached relied
    obtain ⟨answer, replied⟩ := answered reached relied
    exact Or.inl ⟨answer, reached, replied⟩
  · intro reached answer after relied replied
    obtain rfl := reads reached answer after replied
    exact ⟨.refl, given after answer relied replied⟩

/-- The choice from a list is what the lookup finds. -/
theorem secures_choice (lookup : Lookup) {goal : Store Capability → Option Capability → Prop}
    {answer : Except Failure (List Capability)}
    (listed : ∃ objects, answer = .ok objects ∧
      objects.Perm (store.objects.filter lookup.matchesCapability))
    (reached : goal store (lookup.firstIn store)) :
    Secures (sharedCluster defaults initial) (Relation.ReflTransGen moves) goal
      (do return first? (← orFail answer)) store := by
  obtain ⟨objects, rfl, permuted⟩ := listed
  apply secures_orFail_bind rfl
  apply secures_pure
  rw [first?_of_perm permuted]
  exact reached

theorem secures_find {lookup : Lookup} {goal : Store Capability → Option Capability → Prop}
    (given : ∀ reached, Relation.ReflTransGen moves store reached →
      goal reached (lookup.firstIn reached)) :
    Secures (sharedCluster defaults initial) (Relation.ReflTransGen moves) goal (find lookup)
      store := by
  cases lookup with
  | byName namespaceName name =>
      apply secures_bind (fun after answer =>
        answer = .ok (after.find? ⟨namespaceName, name⟩) ∧
          Relation.ReflTransGen moves store after)
      · apply secures_read
        · exact fun reached _ => ⟨_, rfl, rfl⟩
        · exact fun reached answer after replied => replied.2
        · exact fun reached answer relied replied => ⟨replied.1, relied⟩
      · rintro _ after ⟨rfl, relied⟩
        refine secures_orFail rfl ?_
        rw [← Lookup.firstIn_byName]
        exact given after relied
  | byLabels namespaceName? labels =>
      cases namespaceName? with
      | none =>
          apply secures_bind (fun after answer =>
            (∃ objects, answer = .ok objects ∧ objects.Perm (after.everywhere labels)) ∧
              Relation.ReflTransGen moves store after)
          · apply secures_read
            · exact fun reached _ => ⟨_, ⟨_, rfl, .refl _⟩, rfl⟩
            · exact fun reached answer after replied => replied.2
            · exact fun reached answer relied replied => ⟨replied.1, relied⟩
          · rintro answer after ⟨listed, relied⟩
            exact secures_choice (.byLabels none labels) listed (given after relied)
      | some namespaceName =>
          apply secures_bind (fun after answer =>
            (∃ objects, answer = .ok objects ∧
              objects.Perm (after.inNamespace namespaceName labels)) ∧
                Relation.ReflTransGen moves store after)
          · apply secures_read
            · exact fun reached _ => ⟨_, ⟨_, rfl, .refl _⟩, rfl⟩
            · exact fun reached answer after replied => replied.2
            · exact fun reached answer relied replied => ⟨replied.1, relied⟩
          · rintro answer after ⟨listed, relied⟩
            exact secures_choice (.byLabels (some namespaceName) labels) listed
              (given after relied)

end Provision

end Provisioning
