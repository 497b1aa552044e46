import Mathlib.Data.List.Induction
import Provisioning.Pod.Operations
import Provisioning.Proofs.Exchanges

/-!
# Pod operations as trees of calls

What an operation on pods asks for first, and what it goes on with for each answer.  The wait for
the end of pods is a poll on the clock: after every listing it reads the clock, and then it ends, or
sleeps and lists the pods again (`repeatRemoval_succ`).
-/

namespace Provisioning

namespace PodOperation

variable {α : Type}

@[simp]
theorem run_orFail (result : Except Failure Unit) :
    (orFail result : Attempt Unit).run = .done (result.mapError .failed) := by
  cases result <;> rfl

@[simp]
theorem run_list_bind (namespaceName : String) (labels : Labels) (next : List Pod → Attempt α) :
    (ask (.list namespaceName labels) >>= fun listed => orFail listed >>= next).run =
      .call (.list namespaceName labels) fun
        | .ok pods => (next pods).run
        | .error failure => .done (.error (.failed failure)) := by
  show Program.call _ _ = _
  congr 1
  funext answer
  cases answer <;> rfl

@[simp]
theorem run_deleteAll_cons_bind (namespaceName : String) (pod : Pod) (rest : List Pod)
    (next : Attempt α) :
    (deleteAll namespaceName (pod :: rest) >>= fun _ => next).run =
      .call (.delete namespaceName pod.name) fun
        | .ok _ => (deleteAll namespaceName rest >>= fun _ => next).run
        | .error failure => .done (.error (.failed failure)) := by
  show Program.call _ _ = _
  congr 1
  funext answer
  cases answer <;> rfl

/-- Deletions that succeeded, one after the other. -/
def deletions (namespaceName : String) (pods : List Pod) :
    List (Program.Exchange PodCall PodCall.Answer) :=
  pods.map fun pod => ⟨.delete namespaceName pod.name, .ok ()⟩

@[simp]
theorem requests_deletions (namespaceName : String) (pods : List Pod) :
    (deletions namespaceName pods).map (·.request) =
      pods.map fun pod => PodCall.delete namespaceName pod.name :=
  List.map_map

/-- As long as deletions succeed, one pod after the other is deleted, and the stages are gone through
in their order. -/
theorem goes_deleteAll_append {σ : Type}
    {answers : σ → (request : PodCall) → request.Answer → σ → Prop} (namespaceName : String)
    (front back : List Pod) (next : Attempt α) (stages : Nat → σ)
    (succeeds : ∀ (earlier : Nat) (inFront : earlier < front.length),
      answers (stages earlier) (.delete namespaceName front[earlier].name) (.ok ())
        (stages (earlier + 1))) :
    (deleteAll namespaceName (front ++ back) >>= fun _ => next).run.Goes answers (stages 0)
      (deletions namespaceName front)
      (deleteAll namespaceName back >>= fun _ => next).run (stages front.length) := by
  induction front generalizing stages with
  | nil => exact .still _ _
  | cons pod rest inductionHypothesis =>
      have isDeleted := succeeds 0 (Nat.zero_lt_succ _)
      have others := inductionHypothesis (fun earlier => stages (earlier + 1))
        fun earlier inRest => succeeds (earlier + 1) (Nat.succ_lt_succ inRest)
      exact .call isDeleted others

/-- The deletions succeed, or one of them is the first to fail. -/
theorem deleted_or_refused (deletions : Nat → Except Failure Unit) (pods : List Pod) :
    (∀ deletion < pods.length, deletions deletion = .ok ()) ∨
      ∃ front pod rest failure, pods = front ++ pod :: rest ∧
        (∀ earlier < front.length, deletions earlier = .ok ()) ∧
        deletions front.length = .error failure := by
  induction pods using List.reverseRecOn with
  | nil => exact .inl fun deletion isNone => absurd isNone (Nat.not_lt_zero _)
  | append_singleton pods pod inductionHypothesis =>
      rcases inductionHypothesis with
        deleted | ⟨front, refused, rest, failure, rfl, deleted, isRefused⟩
      · cases isLast : deletions pods.length with
        | error failure => exact .inr ⟨pods, pod, [], failure, rfl, deleted, isLast⟩
        | ok done =>
            refine .inl fun deletion inRange => ?_
            rw [List.length_append, List.length_singleton] at inRange
            rcases Nat.lt_succ_iff_lt_or_eq.mp inRange with earlier | rfl
            · exact deleted deletion earlier
            · exact isLast
      · refine .inr ⟨front, refused, rest ++ [pod], failure, ?_, deleted, isRefused⟩
        rw [List.append_assoc, List.cons_append]

/-! ## Waits for pods -/

@[simp]
theorem run_awaitGoal (goal : PodGoal) (locator : Locator) (timeout : Duration) :
    (awaitGoal goal locator timeout).run = .call (.awaitGoal goal locator timeout) fun
      | .met pod => .done (.ok pod)
      | .failed error => .done (.error (.wait error))
      | .beyondClock => .abort Wait.beyondClockMessage :=
  rfl

theorem run_runToCompletion (settings : Settings) (pod : Pod) :
    (runToCompletion settings pod).run =
      match pod.metadata.namespaceName with
      | none => .done (.error (.missingNamespace pod.name))
      | some namespaceName => .call (.create pod) fun
          | .ok _ => (awaitGoal .finished (.named namespaceName pod.name)
              settings.podCompletionTimeout).run
          | .error failure => .done (.error (.failed failure)) := by
  cases homed : pod.metadata.namespaceName with
  | none => rw [runToCompletion, homeOrFail, homed]; rfl
  | some namespaceName =>
      rw [runToCompletion, homeOrFail, homed]
      show Program.call _ _ = _
      congr 1
      funext answer
      cases answer with
      | ok created => rfl
      | error failure => rfl

/-! ## The end of pods -/

/-- The checks of a poll for the end of pods, on a clock. -/
abbrev repeatRemoval (namespaceName : String) (labels : Labels) (poll : Poll) (start : Duration)
    (checks : Nat) : PodProgram (Option (Except Failure Unit)) :=
  poll.repeatCheck (Program.perform PodCall.now)
    (fun span => Program.perform (PodCall.sleep span)) (areGone namespaceName labels) start checks

theorem repeatRemoval_succ (namespaceName : String) (labels : Labels) (poll : Poll)
    (start : Duration) (checks : Nat) :
    repeatRemoval namespaceName labels poll start (checks + 1) =
      .call (.list namespaceName labels) fun answer => .call .now fun instant =>
        match poll.afterCheck (instant - start) (answer.map (·.isEmpty)) with
        | some result => .done (some result)
        | none => .call (.sleep poll.interval) fun _ =>
            repeatRemoval namespaceName labels poll start checks :=
  rfl

theorem run_awaitRemoval (settings : Settings) (namespaceName : String) (labels : Labels) :
    (awaitRemoval settings namespaceName labels).run = .call .now fun instant =>
      (repeatRemoval namespaceName labels (removalPoll settings namespaceName labels) instant
        (removalPoll settings namespaceName labels).checkBound).bind fun
          | some result => (orFail result : Attempt Unit).run
          | none => .abort "the clock stands still" := by
  rw [awaitRemoval, ExceptT.run_bind_lift]
  rfl

theorem run_removeAndWait (settings : Settings) (namespaceName : String) (labels : Labels) :
    (removeAndWait settings namespaceName labels).run = .call (.list namespaceName labels) fun
      | .ok pods => (deleteAll namespaceName pods >>= fun _ =>
          awaitRemoval settings namespaceName labels).run
      | .error failure => .done (.error (.failed failure)) :=
  run_list_bind namespaceName labels fun pods =>
    deleteAll namespaceName pods >>= fun _ => awaitRemoval settings namespaceName labels

end PodOperation

end Provisioning
