import Mathlib.Logic.Relation
import Provisioning.Proofs.Exchanges
import Provisioning.Proofs.Noticing
import Provisioning.Proofs.PodCalls

/-!
# What a cleanup deletes

A cleanup judges pods by a listing and deletes them afterwards, one after the other and by name.  Others
go on meanwhile, and what a name leads to when its turn comes need not be what was listed.

Main statement: all that a cleanup deletes has completed exactly if nothing that others may do leads,
under one name, from a completed pod to one that has not (`removeCompleted_deletes_completed_iff`).
-/

namespace Provisioning

open ClusterObject

/-! ## What others do to a name -/

section Changes

variable {α : Type} [ClusterObject α]

namespace ObjectChange

/-- The key under which something changes. -/
def place : ObjectChange α → ObjectKey
  | .put object => key object
  | .removed place => place

/-- What the key leads to after the change. -/
def outcome : ObjectChange α → Option α
  | .put object => some object
  | .removed _ => none

end ObjectChange

@[simp]
theorem Store.find?_changed (store : Store α) (change : ObjectChange α) (wanted : ObjectKey) :
    (store.changed change).find? wanted =
      if change.place = wanted then change.outcome else store.find? wanted := by
  cases change with
  | put object => exact store.find?_put object wanted
  | removed place =>
      rw [changed, find?_remove]
      simp only [ObjectChange.place, ObjectChange.outcome, eq_comm]

variable (may : Option α → ObjectChange α → Prop)

/-- Others change a store as they may, going by what there is under the key. -/
def Acts (before after : Store α) : Prop :=
  ∃ change, may (before.find? change.place) change ∧ after = before.changed change

/-- What a key leads to changes as others may change it. -/
def ActsAt (place : ObjectKey) (before after : Option α) : Prop :=
  ∃ change, change.place = place ∧ may before change ∧ after = change.outcome

/-- What a key leads to can become something else in the hands of others. -/
abbrev CanBecome (place : ObjectKey) : Option α → Option α → Prop :=
  Relation.ReflTransGen (ActsAt may place)

variable {may} {store after : Store α} {place : ObjectKey}

private theorem becomes_of_acts (acts : Relation.ReflTransGen (Acts may) store after) (place : ObjectKey) :
    CanBecome may place (store.find? place) (after.find? place) := by
  induction acts with
  | refl => exact .refl
  | tail _ last inductionHypothesis =>
      obtain ⟨change, allowed, rfl⟩ := last
      rw [Store.find?_changed]
      by_cases atPlace : change.place = place
      · subst atPlace
        rw [if_pos rfl]
        exact inductionHypothesis.tail ⟨change, rfl, allowed, rfl⟩
      · rw [if_neg atPlace]
        exact inductionHypothesis

private theorem exists_acts_of_becomes {before later : Option α} (found : store.find? place = before)
    (becomes : CanBecome may place before later) :
    ∃ after, Relation.ReflTransGen (Acts may) store after ∧ after.find? place = later := by
  induction becomes with
  | refl => exact ⟨store, .refl, found⟩
  | tail _ last inductionHypothesis =>
      obtain ⟨middle, acts, leads⟩ := inductionHypothesis
      obtain ⟨change, rfl, allowed, rfl⟩ := last
      rw [← leads] at allowed
      refine ⟨middle.changed change, acts.tail ⟨change, allowed, rfl⟩, ?_⟩
      simp

end Changes

namespace Store

variable {α : Type} [ClusterObject α] {store : Store α} {namespaceName : String} {wanted : Labels}

@[simp]
theorem mem_inNamespace_iff {object : α} :
    object ∈ store.inNamespace namespaceName wanted ↔ store.find? (key object) = some object ∧
      (key object).namespaceName = namespaceName ∧ (labels object).carries wanted = true := by
  rw [inNamespace, List.mem_filter, Bool.and_eq_true, beq_iff_eq, find?_eq_some_iff]
  simp only [and_true]

/-- Within a namespace objects are told apart by their names. -/
theorem distinct_inNamespace :
    (store.inNamespace namespaceName wanted).Pairwise fun earlier later =>
      (key earlier).name ≠ (key later).name := by
  have below : (store.inNamespace namespaceName wanted).Pairwise fun earlier later =>
      key earlier < key later := store.sorted.filter _
  refine below.imp_of_mem ?_
  intro earlier later isEarlier isLater isBelow sameName
  have sameNamespace : (key earlier).namespaceName = (key later).namespaceName :=
    (mem_inNamespace_iff.mp isEarlier).2.1.trans (mem_inNamespace_iff.mp isLater).2.1.symm
  exact ObjectKey.ne_of_lt isBelow (ObjectKey.ext sameNamespace sameName)

end Store

/-! ## Cleanups among others -/

/-- The pods of a cluster, and those that a program has deleted, each as it was when it was. -/
structure PodRecord where
  pods : Store Pod
  deleted : List Pod := []

/-- How the calls of a cleanup are answered while others act as they may: a list tells what there is, a
deletion takes away what there is under the name, and either may fail, a deletion also after it took
effect.  Other calls are not made. -/
def PodCall.AnsweredAmong (may : Option Pod → ObjectChange Pod → Prop) (before : PodRecord) :
    (request : PodCall) → request.Answer → PodRecord → Prop
  | .list namespaceName labels, answer, after =>
      Relation.ReflTransGen (Acts may) before.pods after.pods ∧ after.deleted = before.deleted ∧
        ∀ pods, answer = .ok pods → pods.Perm (after.pods.inNamespace namespaceName labels)
  | .delete namespaceName name, answer, after =>
      ∃ middle, Relation.ReflTransGen (Acts may) before.pods middle ∧
        (after = ⟨middle.remove ⟨namespaceName, name⟩,
            (middle.find? ⟨namespaceName, name⟩).toList ++ before.deleted⟩ ∨
          ∃ failure, answer = .error failure ∧ after = ⟨middle, before.deleted⟩)
  | .create _, _, _ => False
  | .awaitGoal .., _, _ => False
  | .now, _, _ => False
  | .sleep _, _, _ => False

namespace PodOperation

variable {σ α : Type} {namespaceName : String} {labels : Labels} {pods : List Pod}
  {answers : σ → (request : PodCall) → request.Answer → σ → Prop}
  {exchanges : List (Program.Exchange PodCall PodCall.Answer)}

/-- What a cleanup deletes of the listed pods. -/
def cleanup (namespaceName : String) (pods : List Pod) : Attempt Nat :=
  deleteAll namespaceName (pods.filter (·.state == .completed)) >>= fun _ =>
    pure (pods.filter (·.state == .completed)).length

theorem run_removeCompleted (namespaceName : String) (labels : Labels) :
    (removeCompleted namespaceName labels).run = .call (.list namespaceName labels) fun
      | .ok pods => (cleanup namespaceName pods).run
      | .error failure => .done (.error (.failed failure)) :=
  run_list_bind namespaceName labels (cleanup namespaceName)

/-! ## The deletions -/

private theorem mem_of_goes_deleteAll {start finish : σ} {value : α} {left : PodProgram (Except PodError α)}
    (goes : (deleteAll namespaceName pods >>= fun _ => (pure value : Attempt α)).run.Goes answers
      start exchanges left finish) :
    ∀ exchange ∈ exchanges, ∃ pod ∈ pods, exchange.request = .delete namespaceName pod.name := by
  induction pods generalizing start exchanges with
  | nil =>
      obtain ⟨rfl, _, _⟩ := Program.goes_done_iff.mp goes
      exact fun _ member => absurd member List.not_mem_nil
  | cons pod rest inductionHypothesis =>
      rw [run_deleteAll_cons_bind] at goes
      rcases Program.goes_call_iff.mp goes with ⟨rfl, _, _⟩ | ⟨answer, middle, others, rfl, _, goesOn⟩
      · exact fun _ member => absurd member List.not_mem_nil
      · have later : ∀ exchange ∈ others, ∃ pod ∈ rest,
            exchange.request = .delete namespaceName pod.name := by
          cases answer with
          | ok deleted => exact inductionHypothesis goesOn
          | error failure =>
              obtain ⟨rfl, _, _⟩ := Program.goes_done_iff.mp goesOn
              exact fun _ member => absurd member List.not_mem_nil
        intro exchange member
        rcases List.mem_cons.mp member with rfl | isLater
        · exact ⟨pod, List.mem_cons_self, rfl⟩
        · obtain ⟨other, inRest, isDelete⟩ := later exchange isLater
          exact ⟨other, List.mem_cons_of_mem pod inRest, isDelete⟩

variable {may : Option Pod → ObjectChange Pod → Prop}

/-- What a deletion takes away is what there was under its name, or has become of it since. -/
theorem becomes_of_deletion {before after : PodRecord} {name : String}
    {answer : PodCall.Answer (.delete namespaceName name)} {listed : Option Pod}
    (answered : PodCall.AnsweredAmong may before (.delete namespaceName name) answer after)
    (becomes : CanBecome may ⟨namespaceName, name⟩ listed
      (before.pods.find? ⟨namespaceName, name⟩)) :
    ∀ removed ∈ after.deleted, removed ∈ before.deleted ∨
      CanBecome may ⟨namespaceName, name⟩ listed (some removed) := by
  obtain ⟨middle, acts, taken⟩ := answered
  have atHand := becomes.trans (becomes_of_acts acts _)
  intro removed member
  rcases taken with rfl | ⟨_, _, rfl⟩
  · rcases List.mem_append.mp member with isTaken | earlier
    · have found := Option.mem_toList.mp isTaken
      rw [← Option.mem_def.mp found]
      exact .inr atHand
    · exact .inl earlier
  · exact .inl member

/-- A deletion that succeeds spares what has another name, so that others alone change it. -/
theorem becomes_of_deletion_of_ne {before after : PodRecord} {name other : String}
    {listed : Option Pod}
    (answered : PodCall.AnsweredAmong may before (.delete namespaceName name) (.ok ()) after)
    (different : name ≠ other)
    (becomes : CanBecome may ⟨namespaceName, other⟩ listed
      (before.pods.find? ⟨namespaceName, other⟩)) :
    CanBecome may ⟨namespaceName, other⟩ listed (after.pods.find? ⟨namespaceName, other⟩) := by
  obtain ⟨middle, acts, rfl | ⟨_, failed, _⟩⟩ := answered
  · have apart : (⟨namespaceName, other⟩ : ObjectKey) ≠ ⟨namespaceName, name⟩ :=
      fun same => different (congrArg ObjectKey.name same).symm
    rw [Store.find?_remove, if_neg apart]
    exact becomes.trans (becomes_of_acts acts _)
  · cases failed

/-- What is deleted is what one of the listed pods has become, as long as the names that are still to
come lead to what their pods have become. -/
theorem becomes_of_goes_deleteAll {start finish : PodRecord} {value : α}
    {left : PodProgram (Except PodError α)}
    (distinct : pods.Pairwise fun earlier later => earlier.name ≠ later.name)
    (become : ∀ pod ∈ pods, CanBecome may ⟨namespaceName, pod.name⟩ (some pod)
      (start.pods.find? ⟨namespaceName, pod.name⟩))
    (goes : (deleteAll namespaceName pods >>= fun _ => (pure value : Attempt α)).run.Goes
      (PodCall.AnsweredAmong may) start exchanges left finish) :
    ∀ removed ∈ finish.deleted, removed ∈ start.deleted ∨
      ∃ pod ∈ pods, CanBecome may ⟨namespaceName, pod.name⟩ (some pod) (some removed) := by
  -- The invariant is about the names still to come: a deletion spares them because the names differ,
  -- and what others do in between is part of what their pods can become.
  induction pods generalizing start exchanges with
  | nil =>
      obtain ⟨_, _, rfl⟩ := Program.goes_done_iff.mp goes
      exact fun removed member => .inl member
  | cons pod rest inductionHypothesis =>
      obtain ⟨firstApart, restApart⟩ := List.pairwise_cons.mp distinct
      rw [run_deleteAll_cons_bind] at goes
      rcases Program.goes_call_iff.mp goes with
        ⟨_, _, rfl⟩ | ⟨answer, after, others, _, answered, goesOn⟩
      · exact fun removed member => .inl member
      have ofFirst : ∀ removed ∈ after.deleted, removed ∈ start.deleted ∨
          ∃ listed ∈ pod :: rest, CanBecome may ⟨namespaceName, listed.name⟩ (some listed)
            (some removed) := fun removed member =>
        (becomes_of_deletion answered (become pod List.mem_cons_self) removed member).imp id
          fun becomes => ⟨pod, List.mem_cons_self, becomes⟩
      cases answer with
      | error failure =>
          obtain ⟨_, _, rfl⟩ := Program.goes_done_iff.mp goesOn
          exact ofFirst
      | ok deleted =>
          have stillToCome : ∀ other ∈ rest, CanBecome may ⟨namespaceName, other.name⟩ (some other)
              (after.pods.find? ⟨namespaceName, other.name⟩) := fun other member =>
            becomes_of_deletion_of_ne answered (firstApart other member)
              (become other (List.mem_cons_of_mem pod member))
          intro removed member
          rcases inductionHypothesis restApart stillToCome goesOn removed member with
            before | ⟨other, inRest, becomes⟩
          · exact ofFirst removed before
          · exact .inr ⟨other, List.mem_cons_of_mem pod inRest, becomes⟩

/-! ## Cleanups -/

/-- A cleanup asks for the deletion of pods that it saw completed, and of no others. -/
theorem requested_of_goes_removeCompleted {start finish : σ} {left : PodProgram (Except PodError Nat)}
    (goes : (removeCompleted namespaceName labels).run.Goes answers start exchanges left finish) :
    ∀ exchange ∈ exchanges, ∀ home name, exchange.request = .delete home name →
      home = namespaceName ∧ ∃ pods, ⟨.list namespaceName labels, .ok pods⟩ ∈ exchanges ∧
        ∃ pod ∈ pods, pod.name = name ∧ pod.state = .completed := by
  rw [run_removeCompleted] at goes
  rcases Program.goes_call_iff.mp goes with ⟨rfl, _, _⟩ | ⟨answer, middle, others, rfl, _, goesOn⟩
  · exact fun _ member => absurd member List.not_mem_nil
  intro exchange member home name isDelete
  rcases List.mem_cons.mp member with rfl | isLater
  · cases isDelete
  cases answer with
  | error failure =>
      obtain ⟨rfl, _, _⟩ := Program.goes_done_iff.mp goesOn
      exact absurd isLater List.not_mem_nil
  | ok pods =>
      obtain ⟨pod, isCompleted, isRequested⟩ := mem_of_goes_deleteAll goesOn exchange isLater
      obtain ⟨isListed, hasCompleted⟩ := List.mem_filter.mp isCompleted
      cases isDelete.symm.trans isRequested
      exact ⟨rfl, pods, List.mem_cons_self, pod, isListed, rfl, eq_of_beq hasCompleted⟩

private theorem canBecome_of_goes_removeCompleted {store : Store Pod} {finish : PodRecord}
    {left : PodProgram (Except PodError Nat)}
    (goes : (removeCompleted namespaceName labels).run.Goes (PodCall.AnsweredAmong may) ⟨store, []⟩
      exchanges left finish) :
    ∀ removed ∈ finish.deleted, ∃ pod : Pod, (key pod).namespaceName = namespaceName ∧
      pod.labels.carries labels = true ∧ pod.state = .completed ∧
        CanBecome may (key pod) (some pod) (some removed) := by
  rw [run_removeCompleted] at goes
  rcases Program.goes_call_iff.mp goes with
    ⟨_, _, rfl⟩ | ⟨answer, listed, others, _, ⟨_, noneDeleted, isListed⟩, goesOn⟩
  · exact fun _ member => absurd member List.not_mem_nil
  cases answer with
  | error failure =>
      obtain ⟨_, _, rfl⟩ := Program.goes_done_iff.mp goesOn
      rw [noneDeleted]
      exact fun _ member => absurd member List.not_mem_nil
  | ok pods =>
      have sameMembers := isListed pods rfl
      have isThere : ∀ pod ∈ pods, listed.pods.find? (key pod) = some pod ∧
          (key pod).namespaceName = namespaceName ∧ pod.labels.carries labels = true :=
        fun pod member => Store.mem_inNamespace_iff.mp (sameMembers.subset member)
      have keyOf : ∀ pod ∈ pods, key pod = ⟨namespaceName, pod.name⟩ := fun pod member =>
        ObjectKey.ext (isThere pod member).2.1 rfl
      have distinct : (pods.filter (·.state == .completed)).Pairwise
          fun earlier later => earlier.name ≠ later.name :=
        (Store.distinct_inNamespace.perm sameMembers.symm fun different =>
          Ne.symm different).filter _
      have become : ∀ pod ∈ pods.filter (·.state == .completed),
          CanBecome may ⟨namespaceName, pod.name⟩ (some pod)
            (listed.pods.find? ⟨namespaceName, pod.name⟩) := by
        intro pod isCompleted
        have member := (List.mem_filter.mp isCompleted).1
        rw [← keyOf pod member, (isThere pod member).1]
      intro removed isDeleted
      rcases becomes_of_goes_deleteAll distinct become goesOn removed isDeleted with
        before | ⟨pod, isCompleted, becomes⟩
      · rw [noneDeleted] at before
        exact absurd before List.not_mem_nil
      · obtain ⟨member, hasCompleted⟩ := List.mem_filter.mp isCompleted
        obtain ⟨_, atHome, carries⟩ := isThere pod member
        rw [← keyOf pod member] at becomes
        exact ⟨pod, atHome, carries, eq_of_beq hasCompleted, becomes⟩

/-- What others can make of a completed pod between the listing and its deletion, a cleanup
deletes. -/
theorem exists_goes_removeCompleted {pod later : Pod}
    (atHome : (key pod).namespaceName = namespaceName)
    (carries : pod.labels.carries labels = true) (completed : pod.state = .completed)
    (becomes : CanBecome may (key pod) (some pod) (some later)) :
    ∃ exchanges left finish, (removeCompleted namespaceName labels).run.Goes
      (PodCall.AnsweredAmong may) ⟨Store.empty.put pod, []⟩ exchanges left finish ∧
        later ∈ finish.deleted := by
  have listsPod : (Store.empty.put pod).inNamespace namespaceName labels = [pod] :=
    List.filter_cons_of_pos (Bool.and_eq_true_iff.mpr ⟨beq_iff_eq.mpr atHome, carries⟩)
  have onlyPod : [pod].filter (·.state == .completed) = [pod] :=
    List.filter_cons_of_pos (beq_iff_eq.mpr completed)
  have found : (Store.empty.put pod).find? (key pod) = some pod := by
    simp
  obtain ⟨middle, acts, leads⟩ := exists_acts_of_becomes found becomes
  have isKey : key pod = ⟨namespaceName, pod.name⟩ := ObjectKey.ext atHome rfl
  rw [isKey] at leads
  have goesOn : (cleanup namespaceName [pod]).run.Goes (PodCall.AnsweredAmong may)
      ⟨Store.empty.put pod, []⟩ [⟨.delete namespaceName pod.name, .ok ()⟩] (.done (.ok 1))
      ⟨middle.remove ⟨namespaceName, pod.name⟩, [later]⟩ := by
    rw [cleanup, onlyPod, run_deleteAll_cons_bind]
    refine .call ⟨middle, acts, .inl ?_⟩ (.still _ _)
    rw [leads]
    rfl
  have listed : PodCall.AnsweredAmong may ⟨Store.empty.put pod, []⟩ (.list namespaceName labels)
      (.ok [pod]) ⟨Store.empty.put pod, []⟩ := by
    refine ⟨.refl, rfl, fun pods isAnswer => ?_⟩
    cases isAnswer
    rw [listsPod]
  rw [run_removeCompleted]
  exact ⟨_, _, _, .call listed goesOn, List.mem_cons_self⟩

/-- However others act, a cleanup asks for the deletion of completed pods only.  All that it deletes
has completed exactly if nothing that others may do leads, under one name, from a completed pod to one
that has not. -/
theorem removeCompleted_deletes_completed_iff (may : Option Pod → ObjectChange Pod → Prop)
    (namespaceName : String) (labels : Labels) :
    (∀ start exchanges left finish,
      (removeCompleted namespaceName labels).run.Goes (PodCall.AnsweredAmong may) start exchanges left
          finish →
        ∀ exchange ∈ exchanges, ∀ home name, exchange.request = .delete home name →
          home = namespaceName ∧ ∃ pods, ⟨.list namespaceName labels, .ok pods⟩ ∈ exchanges ∧
            ∃ pod ∈ pods, pod.name = name ∧ pod.state = .completed) ∧
    ((∀ store exchanges left finish,
      (removeCompleted namespaceName labels).run.Goes (PodCall.AnsweredAmong may) ⟨store, []⟩
          exchanges left finish →
        ∀ removed ∈ finish.deleted, removed.state = .completed) ↔
      ∀ pod later : Pod, (key pod).namespaceName = namespaceName →
        pod.labels.carries labels = true → pod.state = .completed →
          CanBecome may (key pod) (some pod) (some later) → later.state = .completed) := by
  refine ⟨fun _ _ _ _ => requested_of_goes_removeCompleted, ?_, ?_⟩
  · intro deletesCompleted pod later atHome carries completed becomes
    obtain ⟨exchanges, left, finish, goes, isDeleted⟩ :=
      exists_goes_removeCompleted atHome carries completed becomes
    exact deletesCompleted _ exchanges left finish goes later isDeleted
  · intro staysCompleted store exchanges left finish goes removed isDeleted
    obtain ⟨pod, atHome, carries, completed, becomes⟩ :=
      canBecome_of_goes_removeCompleted goes removed isDeleted
    exact staysCompleted pod removed atHome carries completed becomes

/-- Where others may do as they like, a cleanup can delete a pod that has failed: it was put in the
place of the one that was listed. -/
theorem exists_failed_deleted (namespaceName : String) (labels : Labels) :
    ∃ store exchanges left finish, (removeCompleted namespaceName labels).run.Goes
      (PodCall.AnsweredAmong fun _ _ => True) ⟨store, []⟩ exchanges left finish ∧
        ∃ removed ∈ finish.deleted, removed.state = .failed := by
  let metadata : Metadata :=
    { name := some "job", namespaceName := some namespaceName, labels := some labels }
  let listed : Pod := ⟨metadata, some { phase := some "Succeeded" }⟩
  let replaced : Pod := ⟨metadata, some { phase := some "Failed" }⟩
  have becomes : CanBecome (fun _ _ => True) (key listed) (some listed) (some replaced) :=
    .single ⟨.put replaced, rfl, trivial, rfl⟩
  have carries : listed.labels.carries labels = true := Labels.carries_self labels
  obtain ⟨exchanges, left, finish, goes, isDeleted⟩ :=
    exists_goes_removeCompleted rfl carries rfl becomes
  exact ⟨_, exchanges, left, finish, goes, replaced, isDeleted, rfl⟩

end PodOperation

end Provisioning
