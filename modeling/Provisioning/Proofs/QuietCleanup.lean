import Provisioning.Proofs.Cleanup
import Provisioning.Proofs.PromptRemoval

/-!
# Cleanups in a quiet cluster

Where nobody else acts, a name still leads to the pod that was listed under it when its turn comes to
be deleted.  So a cleanup takes away exactly the completed pods that it saw, up to the first deletion
that fails, and leaves everything else as it was.

Main statement: the calls of a cleanup, what it ends with, and which pods are left
(`removeCompleted_cleans`).
-/

namespace Provisioning

open ClusterObject

namespace Store

variable {α : Type} [ClusterObject α] {store : Store α} {object : α}

/-- The store without what some keys lead to. -/
def without (store : Store α) (removed : List ObjectKey) : Store α :=
  removed.foldl remove store

@[simp]
theorem mem_without_iff {removed : List ObjectKey} :
    object ∈ (store.without removed).objects ↔ object ∈ store.objects ∧ key object ∉ removed := by
  induction removed generalizing store with
  | nil => simp [without]
  | cons first rest inductionHypothesis =>
      show object ∈ ((store.remove first).without rest).objects ↔ _
      rw [inductionHypothesis, mem_remove_iff, and_assoc, List.mem_cons, not_or]

@[simp]
theorem without_concat (store : Store α) (removed : List ObjectKey) (last : ObjectKey) :
    store.without (removed ++ [last]) = (store.without removed).remove last := by
  rw [without, List.foldl_append]
  rfl

end Store

/-! ## Servers that nobody else uses -/

/-- A pod server in a cluster where nobody else acts: the order in which it lists pods, and what its
deletions are answered, one after the other. -/
structure QuietServer where
  arrange : List Pod → List Pod
  arranges : ∀ pods, (arrange pods).Perm pods
  deletions : Nat → Except Failure Unit

namespace QuietServer

/-- The pods that there are, and how many deletions were asked for. -/
structure Stage where
  pods : Store Pod
  deletions : Nat

variable {server : QuietServer} {stage : Stage} {namespaceName : String} {labels : Labels}
  {pod : Pod}

/-- The pods of a namespace that carry the labels, as the server lists them. -/
def listed (server : QuietServer) (stage : Stage) (namespaceName : String) (labels : Labels) :
    List Pod :=
  server.arrange (stage.pods.inNamespace namespaceName labels)

/-- The pods of a listing that have completed. -/
def completed (server : QuietServer) (stage : Stage) (namespaceName : String) (labels : Labels) :
    List Pod :=
  (server.listed stage namespaceName labels).filter (·.state == .completed)

/-- How the calls of a cleanup are answered: a deletion takes away what there is under the name, or it
fails and changes nothing. -/
def Answers (server : QuietServer) (stage : Stage) :
    (request : PodCall) → request.Answer → Stage → Prop
  | .list namespaceName labels, answer, after =>
      answer = .ok (server.listed stage namespaceName labels) ∧ after = stage
  | .delete namespaceName name, answer, after =>
      answer = server.deletions stage.deletions ∧
        after.deletions = stage.deletions + 1 ∧
        after.pods = match server.deletions stage.deletions with
          | .ok _ => stage.pods.remove ⟨namespaceName, name⟩
          | .error _ => stage.pods
  | .create _, _, _ => False
  | .awaitGoal .., _, _ => False
  | .now, _, _ => False
  | .sleep _, _, _ => False

theorem decided {request : PodCall} {answer other : request.Answer} {after later : Stage}
    (given : server.Answers stage request answer after)
    (otherGiven : server.Answers stage request other later) : other = answer ∧ later = after := by
  cases request with
  | list namespaceName labels =>
      obtain ⟨rfl, rfl⟩ := given
      exact otherGiven
  | delete namespaceName name =>
      obtain ⟨rfl, counted, arePods⟩ := given
      obtain ⟨rfl, otherCounted, areOtherPods⟩ := otherGiven
      cases after
      cases later
      simp_all
  | create pod => exact given.elim
  | awaitGoal goal locator timeout => exact given.elim
  | now => exact given.elim
  | sleep span => exact given.elim

@[simp]
theorem mem_listed_iff :
    pod ∈ server.listed stage namespaceName labels ↔ pod ∈ stage.pods.objects ∧
      (key pod).namespaceName = namespaceName ∧ pod.labels.carries labels = true := by
  rw [listed, (server.arranges _).mem_iff, Store.mem_inNamespace_iff, Store.find?_eq_some_iff]
  simp only [and_true]
  rfl

@[simp]
theorem mem_completed_iff :
    pod ∈ server.completed stage namespaceName labels ↔
      pod ∈ server.listed stage namespaceName labels ∧ pod.state = .completed := by
  rw [completed, List.mem_filter, beq_iff_eq]

end QuietServer

namespace PodOperation

open QuietServer (Stage)

variable {server : QuietServer} {begin finish : Stage} {namespaceName : String} {labels : Labels}
  {front rest : List Pod} {pod : Pod} {failure : Failure}

/-- The keys of some pods of a namespace. -/
def places (namespaceName : String) (pods : List Pod) : List ObjectKey :=
  pods.map fun pod => ⟨namespaceName, pod.name⟩

/-- The stage when some pods of a namespace have been deleted. -/
def deletedAt (namespaceName : String) (begin : Stage) (pods : List Pod) : Stage :=
  ⟨begin.pods.without (places namespaceName pods), begin.deletions + pods.length⟩

/-- Pods of one listing are told apart by their names, so that only they are gone. -/
theorem mem_deletedAt_iff {gone : List Pod}
    (wereListed : ∀ pod ∈ gone, pod ∈ server.listed begin namespaceName labels) :
    pod ∈ (deletedAt namespaceName begin gone).pods.objects ↔
      pod ∈ begin.pods.objects ∧ pod ∉ gone := by
  rw [deletedAt, Store.mem_without_iff]
  refine and_congr_right fun isThere => not_congr ?_
  rw [places, List.mem_map]
  constructor
  · rintro ⟨other, isGone, samePlace⟩
    obtain ⟨otherThere, otherHome, _⟩ := QuietServer.mem_listed_iff.mp (wereListed other isGone)
    have sameKey : key other = key pod := by
      rw [← samePlace, ← otherHome]
      rfl
    rwa [← Store.eq_of_key_eq otherThere isThere sameKey]
  · intro isGone
    obtain ⟨_, atHome, _⟩ := QuietServer.mem_listed_iff.mp (wereListed pod isGone)
    exact ⟨pod, isGone, by rw [← atHome]; rfl⟩

private theorem answers_deletion (namespaceName : String) (begin : Stage) {earlier : Nat}
    (inFront : earlier < front.length)
    (deleted : server.deletions (begin.deletions + earlier) = .ok ()) :
    server.Answers (deletedAt namespaceName begin (front.take earlier))
      (.delete namespaceName front[earlier].name) (.ok ())
      (deletedAt namespaceName begin (front.take (earlier + 1))) := by
  have before : (deletedAt namespaceName begin (front.take earlier)).deletions =
      begin.deletions + earlier := by
    rw [deletedAt, List.length_take_of_le (Nat.le_of_lt inFront)]
  have after : (deletedAt namespaceName begin (front.take (earlier + 1))).deletions =
      begin.deletions + earlier + 1 := by
    rw [deletedAt, List.length_take_of_le inFront, Nat.add_assoc]
  refine ⟨by rw [before, deleted], by rw [before, after], ?_⟩
  simp only [before, deleted]
  rw [List.take_succ_eq_append_getElem inFront, deletedAt, places, List.map_append]
  exact Store.without_concat _ _ _

/-- As long as deletions succeed, one pod after the other is taken away. -/
theorem goes_deletions (server : QuietServer) (namespaceName : String) (begin : Stage)
    (front rest : List Pod) (next : Attempt Nat)
    (deleted : ∀ earlier < front.length, server.deletions (begin.deletions + earlier) = .ok ()) :
    (deleteAll namespaceName (front ++ rest) >>= fun _ => next).run.Goes server.Answers begin
      (deletions namespaceName front) (deleteAll namespaceName rest >>= fun _ => next).run
      (deletedAt namespaceName begin front) := by
  have goes := goes_deleteAll_append namespaceName front rest next
    (fun earlier => deletedAt namespaceName begin (front.take earlier)) fun earlier inFront =>
      answers_deletion namespaceName begin inFront (deleted earlier inFront)
  rwa [List.take_length] at goes

/-! ## The ways of a cleanup -/

/-- A cleanup makes these calls, one after another, and ends with this result at this stage; it cannot
go in any other way. -/
def Cleans (server : QuietServer) (namespaceName : String) (labels : Labels) (begin : Stage)
    (requests : List PodCall) (ended : Except PodError Nat) (finish : Stage) : Prop :=
  ∃ exchanges,
    (removeCompleted namespaceName labels).run.OnlyRun server.Answers begin exchanges ended finish ∧
    exchanges.map (·.request) = requests

theorem cleans_of_goes {exchanges : List (Program.Exchange PodCall PodCall.Answer)}
    {ended : Except PodError Nat}
    (goes : (cleanup namespaceName (server.listed begin namespaceName labels)).run.Goes
      server.Answers begin exchanges (.done ended) finish) :
    Cleans server namespaceName labels begin
      (.list namespaceName labels :: exchanges.map (·.request)) ended finish := by
  refine ⟨⟨.list namespaceName labels, .ok (server.listed begin namespaceName labels)⟩ :: exchanges,
    .of_goes QuietServer.decided ?_, rfl⟩
  rw [run_removeCompleted]
  exact .call ⟨rfl, rfl⟩ goes

private theorem cleans_of_deleted
    (deleted : ∀ deletion < (server.completed begin namespaceName labels).length,
      server.deletions (begin.deletions + deletion) = .ok ()) :
    Cleans server namespaceName labels begin
      (.list namespaceName labels :: (server.completed begin namespaceName labels).map
        fun pod => .delete namespaceName pod.name)
      (.ok (server.completed begin namespaceName labels).length)
      (deletedAt namespaceName begin (server.completed begin namespaceName labels)) := by
  have goes := goes_deletions server namespaceName begin (server.completed begin namespaceName labels)
    [] (pure (server.completed begin namespaceName labels).length) deleted
  rw [List.append_nil] at goes
  rw [← requests_deletions]
  exact cleans_of_goes goes

private theorem cleans_of_refused
    (completed : server.completed begin namespaceName labels = front ++ pod :: rest)
    (deleted : ∀ earlier < front.length, server.deletions (begin.deletions + earlier) = .ok ())
    (refused : server.deletions (begin.deletions + front.length) = .error failure) :
    Cleans server namespaceName labels begin
      (.list namespaceName labels :: (front ++ [pod]).map fun pod => .delete namespaceName pod.name)
      (.error (.failed failure))
      ⟨(deletedAt namespaceName begin front).pods, begin.deletions + front.length + 1⟩ := by
  have goes := goes_deletions server namespaceName begin front (pod :: rest)
    (pure (server.completed begin namespaceName labels).length) deleted
  have fails : (deleteAll namespaceName (pod :: rest) >>= fun _ =>
      pure (server.completed begin namespaceName labels).length).run.Goes server.Answers
        (deletedAt namespaceName begin front) [⟨.delete namespaceName pod.name, .error failure⟩]
        (.done (.error (.failed failure)))
        ⟨(deletedAt namespaceName begin front).pods, begin.deletions + front.length + 1⟩ := by
    rw [run_deleteAll_cons_bind]
    refine .call ⟨refused.symm, rfl, ?_⟩ (.still _ _)
    simp only [deletedAt, refused]
  have all := goes.trans fails
  rw [← completed] at all
  have cleans := cleans_of_goes all
  rw [List.map_append, requests_deletions] at cleans
  rw [List.map_append]
  exact cleans

/-! ## What is left -/

private theorem listed_of_completed {gone : Pod}
    (member : gone ∈ server.completed begin namespaceName labels) :
    gone ∈ server.listed begin namespaceName labels :=
  (QuietServer.mem_completed_iff.mp member).1

/-- What is left is what had not completed, and what was not listed. -/
theorem mem_left_iff :
    pod ∈ (deletedAt namespaceName begin
        (server.completed begin namespaceName labels)).pods.objects ↔
      (pod ∈ server.listed begin namespaceName labels ∧ pod.state ≠ .completed) ∨
        pod ∈ begin.pods.objects ∧
          ¬ ((key pod).namespaceName = namespaceName ∧ pod.labels.carries labels = true) := by
  rw [mem_deletedAt_iff fun _ => listed_of_completed, QuietServer.mem_completed_iff,
    QuietServer.mem_listed_iff]
  constructor
  · rintro ⟨isThere, notCompleted⟩
    by_cases selected : (key pod).namespaceName = namespaceName ∧ pod.labels.carries labels = true
    · have isListed := And.intro isThere selected
      exact .inl ⟨isListed, fun completed => notCompleted ⟨isListed, completed⟩⟩
    · exact .inr ⟨isThere, selected⟩
  · rintro (⟨isListed, notCompleted⟩ | ⟨isThere, notSelected⟩)
    · exact ⟨isListed.1, fun completed => notCompleted completed.2⟩
    · exact ⟨isThere, fun completed => notSelected completed.1.2⟩

private theorem completed_deletedAt :
    server.completed (deletedAt namespaceName begin (server.completed begin namespaceName labels))
      namespaceName labels = [] := by
  refine List.eq_nil_iff_forall_not_mem.mpr fun pod member => ?_
  obtain ⟨isListed, completed⟩ := QuietServer.mem_completed_iff.mp member
  obtain ⟨isLeft, selected⟩ := QuietServer.mem_listed_iff.mp isListed
  rcases mem_left_iff.mp isLeft with ⟨_, notCompleted⟩ | ⟨_, notSelected⟩
  · exact notCompleted completed
  · exact notSelected selected

/-- After a cleanup that succeeded there is nothing for another one to do. -/
theorem cleans_again :
    Cleans server namespaceName labels
      (deletedAt namespaceName begin (server.completed begin namespaceName labels))
      [.list namespaceName labels] (.ok 0)
      (deletedAt namespaceName begin (server.completed begin namespaceName labels)) := by
  have noneLeft : ∀ deletion < (server.completed (deletedAt namespaceName begin
      (server.completed begin namespaceName labels)) namespaceName labels).length,
        server.deletions ((deletedAt namespaceName begin
          (server.completed begin namespaceName labels)).deletions + deletion) = .ok () := by
    rw [completed_deletedAt]
    exact fun _ isNone => absurd isNone (Nat.not_lt_zero _)
  have cleans := cleans_of_deleted noneLeft
  rw [completed_deletedAt] at cleans
  exact cleans

theorem exists_cleans (server : QuietServer) (namespaceName : String) (labels : Labels)
    (begin : Stage) :
    ∃ requests ended finish, Cleans server namespaceName labels begin requests ended finish := by
  rcases deleted_or_refused (fun deletion => server.deletions (begin.deletions + deletion))
      (server.completed begin namespaceName labels) with
    deleted | ⟨front, pod, rest, failure, completed, deleted, refused⟩
  · exact ⟨_, _, _, cleans_of_deleted deleted⟩
  · exact ⟨_, _, _, cleans_of_refused completed deleted refused⟩

/-- In a quiet cluster a cleanup comes to its end in one way, whatever is listed, and in whatever
order.  It deletes the completed pods of its listing, one after the other, up to the first deletion
that fails.  If none fails, it tells how many they were; what is left are the listed pods that had not
completed, and all pods that were not listed; and another cleanup deletes nothing.  If one fails, its
failure is the end, and only the pods before it are gone. -/
theorem removeCompleted_cleans (server : QuietServer) (namespaceName : String) (labels : Labels)
    (begin : Stage) :
    (∃ requests ended finish, Cleans server namespaceName labels begin requests ended finish) ∧
    ((∀ deletion < (server.completed begin namespaceName labels).length,
      server.deletions (begin.deletions + deletion) = .ok ()) →
        ∃ finish,
          Cleans server namespaceName labels begin
            (.list namespaceName labels :: (server.completed begin namespaceName labels).map
              fun pod => .delete namespaceName pod.name)
            (.ok (server.completed begin namespaceName labels).length) finish ∧
          (∀ pod, pod ∈ finish.pods.objects ↔
            (pod ∈ server.listed begin namespaceName labels ∧ pod.state ≠ .completed) ∨
              pod ∈ begin.pods.objects ∧
                ¬ ((key pod).namespaceName = namespaceName ∧ pod.labels.carries labels = true)) ∧
          Cleans server namespaceName labels finish [.list namespaceName labels] (.ok 0) finish) ∧
    (∀ front pod rest failure,
      server.completed begin namespaceName labels = front ++ pod :: rest →
      (∀ earlier < front.length, server.deletions (begin.deletions + earlier) = .ok ()) →
      server.deletions (begin.deletions + front.length) = .error failure →
        ∃ finish,
          Cleans server namespaceName labels begin
            (.list namespaceName labels ::
              (front ++ [pod]).map fun pod => .delete namespaceName pod.name)
            (.error (.failed failure)) finish ∧
          ∀ other, other ∈ finish.pods.objects ↔ other ∈ begin.pods.objects ∧ other ∉ front) := by
  refine ⟨exists_cleans server namespaceName labels begin, ?_, ?_⟩
  · intro deleted
    exact ⟨_, cleans_of_deleted deleted, fun _ => mem_left_iff, cleans_again⟩
  · intro front pod rest failure completed deleted refused
    have wereListed : ∀ gone ∈ front, gone ∈ server.listed begin namespaceName labels := by
      intro gone member
      refine listed_of_completed ?_
      rw [completed]
      exact List.mem_append_left _ member
    exact ⟨_, cleans_of_refused completed deleted refused, fun _ => mem_deletedAt_iff wereListed⟩

/-- A pod of the namespace `retail` in some phase. -/
def phased (name phase : String) : Pod where
  metadata := { name := some name, namespaceName := some "retail" }
  status := some { phase := some phase }

/-- Two jobs that are done and one that failed between them. -/
def threeJobs : Store Pod :=
  .ofList [phased "copy" "Succeeded", phased "index" "Failed", phased "prune" "Succeeded"]

/-- A server that deletes once, and never again. -/
def deletesOnce : QuietServer where
  arrange := id
  arranges := List.Perm.refl
  deletions
    | 0 => .ok ()
    | _ + 1 => .error (.internal "pods" "closed")

/-- The first completed pod is gone when the deletion of the second one fails; the failed pod between
them is never asked for. -/
theorem removeCompleted_cleans_threeJobs :
    ∃ finish,
      Cleans deletesOnce "retail" StringMap.empty ⟨threeJobs, 0⟩
        [.list "retail" StringMap.empty, .delete "retail" "copy", .delete "retail" "prune"]
        (.error (.failed (.internal "pods" "closed"))) finish ∧
      phased "copy" "Succeeded" ∉ finish.pods.objects ∧
      phased "index" "Failed" ∈ finish.pods.objects ∧
      phased "prune" "Succeeded" ∈ finish.pods.objects := by
  obtain ⟨_, _, fails⟩ :=
    removeCompleted_cleans deletesOnce "retail" StringMap.empty ⟨threeJobs, 0⟩
  have completed : deletesOnce.completed ⟨threeJobs, 0⟩ "retail" StringMap.empty =
      [phased "copy" "Succeeded"] ++ phased "prune" "Succeeded" :: [] := by decide
  have deleted : ∀ earlier < [phased "copy" "Succeeded"].length,
      deletesOnce.deletions (0 + earlier) = .ok () := by
    intro earlier inFront
    obtain rfl : earlier = 0 := Nat.lt_one_iff.mp inFront
    rfl
  obtain ⟨finish, cleans, left⟩ := fails _ _ _ _ completed deleted rfl
  refine ⟨finish, cleans, ?_, ?_, ?_⟩
  · rw [left]
    decide
  · rw [left]
    decide
  · rw [left]
    decide

end PodOperation

end Provisioning
