import Mathlib.Logic.Basic
import Mathlib.Tactic.ByContra
import Provisioning.Pod.State

/-!
# What the state of a pod follows from

A pod reports a phase, its containers and its conditions, and these can contradict one another.  A
final phase is believed first, then the exit codes once every container has ended, and readiness only
where nothing is final.

Main statement: every state in terms of what is reported, and what makes no difference to it
(`state_follows_report`).
-/

namespace Provisioning

namespace PodStatus

variable {status other : PodStatus}

/-- Every container has ended, and there is one. -/
def AllEnded (status : PodStatus) : Prop :=
  status.containers ≠ [] ∧ ∀ container ∈ status.containers, container.exitCode? ≠ none

/-- The pod is done successfully: so says its phase, or every container ended with zero and the phase
does not say that it failed. -/
def SaysCompleted (status : PodStatus) : Prop :=
  status.phase = some "Succeeded" ∨
    status.phase ≠ some "Failed" ∧ status.containers ≠ [] ∧
      ∀ container ∈ status.containers, container.exitCode? = some 0

/-- The pod has failed: so says its phase, or every container ended, one of them with something else
than zero, and the phase does not say that it succeeded. -/
def SaysFailed (status : PodStatus) : Prop :=
  status.phase = some "Failed" ∨
    status.phase ≠ some "Succeeded" ∧ status.AllEnded ∧
      ∃ container ∈ status.containers, container.exitCode? ≠ some 0

/-- The pod is ready: every container is, and there is one, or a condition says so. -/
def SaysReady (status : PodStatus) : Prop :=
  (status.containers ≠ [] ∧ ∀ container ∈ status.containers, container.ready = true) ∨
    ⟨"Ready", "True"⟩ ∈ status.conditions

/-! ## Exit codes and conditions -/

theorem mapM_exitCode? (containers : List ContainerStatus) :
    containers.mapM (·.exitCode?) =
      if ∀ container ∈ containers, container.exitCode? ≠ none then
        some (containers.filterMap (·.exitCode?))
      else none := by
  induction containers with
  | nil => simp
  | cons first rest inductionHypothesis =>
      cases ended : first.exitCode? with
      | none => simp [ended]
      | some code =>
          rw [List.mapM_cons, inductionHypothesis]
          split <;> simp_all

private theorem exitCodes?_of_allEnded (allEnded : status.AllEnded) :
    status.exitCodes? = some (status.containers.filterMap (·.exitCode?)) := by
  rw [exitCodes?, if_neg (by simpa using allEnded.1), mapM_exitCode?, if_pos allEnded.2]

private theorem exitCodes?_of_not_allEnded (notAllEnded : ¬ status.AllEnded) :
    status.exitCodes? = none := by
  rw [exitCodes?]
  split
  · rfl
  · next filled =>
      have oneRuns : ¬ ∀ container ∈ status.containers, container.exitCode? ≠ none :=
        fun ended => notAllEnded ⟨by simpa using filled, ended⟩
      rw [mapM_exitCode?, if_neg oneRuns]

@[simp]
theorem hasCondition_iff {conditions : List Condition} {type : String} :
    hasCondition conditions type = true ↔ ⟨type, Conventions.conditionHolds⟩ ∈ conditions := by
  rw [hasCondition, List.any_eq_true]
  constructor
  · rintro ⟨⟨_, _⟩, member, holds⟩
    obtain ⟨rfl, rfl⟩ : _ ∧ _ := by simpa using holds
    exact member
  · intro member
    exact ⟨_, member, by simp⟩

@[simp]
theorem isReady_iff : status.isReady = true ↔ status.SaysReady := by
  rw [isReady, Bool.or_eq_true, hasCondition_iff]
  refine or_congr ?_ Iff.rfl
  simp

/-! ## States -/

private theorem state_of_allEnded (allEnded : status.AllEnded) (notSucceeded : status.phase ≠ some "Succeeded")
    (notFailed : status.phase ≠ some "Failed") :
    status.state =
      if ∃ container ∈ status.containers, container.exitCode? ≠ some 0 then .failed
      else .completed := by
  rw [state, if_neg notSucceeded, if_neg notFailed, exitCodes?_of_allEnded allEnded]
  refine if_congr ?_ rfl rfl
  simp only [List.any_eq_true, List.mem_filterMap, decide_eq_true_eq]
  constructor
  · rintro ⟨code, ⟨container, member, isCode⟩, nonzero⟩
    exact ⟨container, member, by simpa [isCode] using nonzero⟩
  · rintro ⟨container, member, nonzero⟩
    obtain ⟨code, isCode⟩ := Option.ne_none_iff_exists'.mp (allEnded.2 container member)
    exact ⟨code, ⟨container, member, isCode⟩, by simpa [isCode] using nonzero⟩

private theorem SaysCompleted.state_eq (reported : status.SaysCompleted) : status.state = .completed := by
  by_cases succeeded : status.phase = some "Succeeded"
  · rw [state, if_pos succeeded]
  · obtain ⟨notFailed, filled, zero⟩ := reported.resolve_left succeeded
    have allEnded : status.AllEnded :=
      ⟨filled, fun container member => by simp [zero container member]⟩
    rw [state_of_allEnded allEnded succeeded notFailed, if_neg]
    rintro ⟨container, member, nonzero⟩
    exact nonzero (zero container member)

private theorem SaysFailed.state_eq (reported : status.SaysFailed) : status.state = .failed := by
  by_cases failed : status.phase = some "Failed"
  · rw [state, failed, if_neg (by decide), if_pos rfl]
  · obtain ⟨notSucceeded, allEnded, nonzero⟩ := reported.resolve_left failed
    rw [state_of_allEnded allEnded notSucceeded failed, if_pos nonzero]

/-- Where nothing is final, readiness decides. -/
theorem state_of_nothing_final (notCompleted : ¬ status.SaysCompleted) (notFailed : ¬ status.SaysFailed) :
    status.state = if status.isReady then .ready else .pending := by
  have noSuccess : status.phase ≠ some "Succeeded" := fun succeeded => notCompleted (.inl succeeded)
  have noFailure : status.phase ≠ some "Failed" := fun failed => notFailed (.inl failed)
  have notAllEnded : ¬ status.AllEnded := by
    intro allEnded
    by_cases nonzero : ∃ container ∈ status.containers, container.exitCode? ≠ some 0
    · exact notFailed (.inr ⟨noSuccess, allEnded, nonzero⟩)
    · simp only [not_exists, not_and, not_not] at nonzero
      exact notCompleted (.inr ⟨noFailure, allEnded.1, nonzero⟩)
  rw [state, if_neg noSuccess, if_neg noFailure, exitCodes?_of_not_allEnded notAllEnded]

@[simp]
theorem isFinished_iff : status.state.isFinished = true ↔ status.SaysCompleted ∨ status.SaysFailed := by
  by_cases completed : status.SaysCompleted
  · simp [completed, completed.state_eq, PodState.isFinished]
  by_cases failed : status.SaysFailed
  · simp [failed, failed.state_eq, PodState.isFinished]
  · rw [state_of_nothing_final completed failed]
    cases status.isReady <;> simp [completed, failed, PodState.isFinished]

@[simp]
theorem state_eq_completed_iff : status.state = .completed ↔ status.SaysCompleted := by
  refine ⟨fun isCompleted => ?_, SaysCompleted.state_eq⟩
  refine (isFinished_iff.mp (by rw [isCompleted]; rfl)).resolve_right fun failed => ?_
  rw [failed.state_eq] at isCompleted
  cases isCompleted

@[simp]
theorem state_eq_failed_iff : status.state = .failed ↔ status.SaysFailed := by
  refine ⟨fun isFailed => ?_, SaysFailed.state_eq⟩
  refine (isFinished_iff.mp (by rw [isFailed]; rfl)).resolve_left fun completed => ?_
  rw [completed.state_eq] at isFailed
  cases isFailed

@[simp]
theorem state_eq_ready_iff (notCompleted : ¬ status.SaysCompleted) (notFailed : ¬ status.SaysFailed) :
    status.state = .ready ↔ status.SaysReady := by
  rw [state_of_nothing_final notCompleted notFailed, ← isReady_iff]
  cases status.isReady <;> simp

@[simp]
theorem state_eq_pending_iff (notCompleted : ¬ status.SaysCompleted)
    (notFailed : ¬ status.SaysFailed) : status.state = .pending ↔ ¬ status.SaysReady := by
  rw [state_of_nothing_final notCompleted notFailed, ← isReady_iff]
  cases status.isReady <;> simp

/-! ## What makes no difference -/

/-- Two reports with the same phase, and with the same containers and conditions but for their
order. -/
structure Agrees (status other : PodStatus) : Prop where
  phase : other.phase = status.phase
  containers : other.containers.Perm status.containers
  conditions : other.conditions.Perm status.conditions

theorem Agrees.containers_eq_nil_iff (agrees : status.Agrees other) :
    other.containers = [] ↔ status.containers = [] := by
  rw [← List.length_eq_zero_iff, ← List.length_eq_zero_iff, agrees.containers.length_eq]

theorem Agrees.saysCompleted_iff (agrees : status.Agrees other) :
    other.SaysCompleted ↔ status.SaysCompleted := by
  simp only [SaysCompleted, agrees.phase, ne_eq, agrees.containers_eq_nil_iff,
    agrees.containers.mem_iff]

theorem Agrees.saysFailed_iff (agrees : status.Agrees other) :
    other.SaysFailed ↔ status.SaysFailed := by
  simp only [SaysFailed, AllEnded, agrees.phase, ne_eq, agrees.containers_eq_nil_iff,
    agrees.containers.mem_iff]

theorem Agrees.saysReady_iff (agrees : status.Agrees other) :
    other.SaysReady ↔ status.SaysReady := by
  simp only [SaysReady, ne_eq, agrees.containers_eq_nil_iff, agrees.containers.mem_iff,
    agrees.conditions.mem_iff]

theorem Agrees.state_eq (agrees : status.Agrees other) : other.state = status.state := by
  by_cases completed : status.SaysCompleted
  · rw [completed.state_eq, (agrees.saysCompleted_iff.mpr completed).state_eq]
  by_cases failed : status.SaysFailed
  · rw [failed.state_eq, (agrees.saysFailed_iff.mpr failed).state_eq]
  · rw [state_of_nothing_final completed failed, state_of_nothing_final
      (mt agrees.saysCompleted_iff.mp completed) (mt agrees.saysFailed_iff.mp failed),
      Bool.eq_iff_iff.mpr (isReady_iff.trans (agrees.saysReady_iff.trans isReady_iff.symm))]

/-! ## Containers that run, and phases that follow -/

private theorem not_isFinished_of_mem_running {container : ContainerStatus}
    (member : container ∈ status.containers) (runs : container.exitCode? = none)
    (notSucceeded : status.phase ≠ some "Succeeded") (notFailed : status.phase ≠ some "Failed") :
    status.state.isFinished = false := by
  refine Bool.eq_false_iff.mpr fun finished => ?_
  rcases isFinished_iff.mp finished with completed | failed
  · obtain ⟨_, _, zero⟩ := completed.resolve_left notSucceeded
    exact absurd (runs.symm.trans (zero container member)) (by simp)
  · obtain ⟨_, allEnded, _⟩ := failed.resolve_left notFailed
    exact allEnded.2 container member runs

/-- The phase that the exit codes lead to. -/
private def finalPhase (status : PodStatus) : String :=
  if ∀ container ∈ status.containers, container.exitCode? = some 0 then "Succeeded" else "Failed"

private theorem state_of_finalPhase (allEnded : status.AllEnded)
    (notSucceeded : status.phase ≠ some "Succeeded") (notFailed : status.phase ≠ some "Failed") :
    { status with phase := some status.finalPhase }.state = status.state := by
  rw [state_of_allEnded allEnded notSucceeded notFailed, finalPhase]
  by_cases zero : ∀ container ∈ status.containers, container.exitCode? = some 0
  · rw [if_pos zero, if_neg (by simpa using zero)]
    exact SaysCompleted.state_eq (.inl rfl)
  · rw [if_neg zero, if_pos (by simpa using zero)]
    exact SaysFailed.state_eq (.inl rfl)

end PodStatus

/-! ## Pods -/

namespace Pod

/-- What a pod reports about itself; without a status, nothing. -/
def report (pod : Pod) : PodStatus :=
  pod.status.getD {}

/-- The pod once it reports this. -/
def reporting (pod : Pod) (status : PodStatus) : Pod :=
  { pod with status := some status }

theorem state_eq_report (pod : Pod) : pod.state = pod.report.state := by
  obtain ⟨metadata, status?⟩ := pod
  cases status? <;> rfl

/-- A pod is completed or has failed exactly if it says so; else it is ready exactly if it says that,
and pending if not.  In which order it reports its containers and conditions makes no difference, nor
do the containers that prepare it.  Where its phase is not final, one more container that has not
ended keeps it from being finished; and once all have ended, the final phase that follows from their
exit codes does not change its state any more. -/
theorem state_follows_report (pod : Pod) :
    (pod.state = .completed ↔ pod.report.SaysCompleted) ∧
    (pod.state = .failed ↔ pod.report.SaysFailed) ∧
    (¬ pod.report.SaysCompleted → ¬ pod.report.SaysFailed →
      (pod.state = .ready ↔ pod.report.SaysReady) ∧
      (pod.state = .pending ↔ ¬ pod.report.SaysReady)) ∧
    (∀ other : Pod, pod.report.Agrees other.report → other.state = pod.state) ∧
    (∀ prepared, (pod.reporting { pod.report with initContainerReports := prepared }).state =
      pod.state) ∧
    (pod.report.phase ≠ some "Succeeded" → pod.report.phase ≠ some "Failed" →
      (∀ container, container.exitCode? = none →
        (pod.reporting { pod.report with
          containerReports := some (pod.report.containers ++ [container]) }).state.isFinished =
            false) ∧
      (pod.report.AllEnded →
        (pod.reporting { pod.report with phase := some pod.report.finalPhase }).state =
          pod.state)) := by
  rw [state_eq_report pod]
  refine ⟨PodStatus.state_eq_completed_iff, PodStatus.state_eq_failed_iff, ?_, ?_, ?_, ?_⟩
  · intro notCompleted notFailed
    exact ⟨PodStatus.state_eq_ready_iff notCompleted notFailed,
      PodStatus.state_eq_pending_iff notCompleted notFailed⟩
  · intro other agrees
    rw [state_eq_report other, agrees.state_eq]
  · intro prepared
    exact PodStatus.Agrees.state_eq ⟨rfl, .refl _, .refl _⟩
  · intro notSucceeded notFailed
    refine ⟨fun container runs => ?_, fun allEnded => ?_⟩
    · exact PodStatus.not_isFinished_of_mem_running
        (List.mem_append_right _ List.mem_cons_self) runs notSucceeded notFailed
    · exact PodStatus.state_of_finalPhase allEnded notSucceeded notFailed

/-- A pod that still calls itself running and ready, although both of its containers have ended. -/
def strayPod : Pod where
  metadata := { name := some "migrate", namespaceName := some "retail" }
  status := some
    { phase := some "Running"
      conditionReports := some [⟨"Ready", "True"⟩]
      containerReports := some
        [{ name := "main", state := some { exitCode := some 0 } },
          { name := "proxy", ready := true, state := some { exitCode := some 2 } }] }

/-- The pod has failed, and nothing changes once its phase says so. -/
theorem state_follows_report_of_strayPod :
    strayPod.state = .failed ∧
      (strayPod.reporting { strayPod.report with phase := some "Failed" }).state = .failed := by
  obtain ⟨_, failedIff, _, _, _, unfinal⟩ := state_follows_report strayPod
  have allEnded : strayPod.report.AllEnded := by
    refine ⟨?_, ?_⟩
    · decide
    · decide
  have failed : strayPod.state = .failed := by
    refine failedIff.mpr (.inr ⟨?_, allEnded, ?_⟩)
    · decide
    · decide
  refine ⟨failed, ?_⟩
  rw [← failed]
  exact (unfinal (by decide) (by decide)).2 allEnded

end Pod

end Provisioning
