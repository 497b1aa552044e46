import Provisioning.Proofs.Deadlines
import Provisioning.Proofs.Sightings

/-!
# Whose end the run of a pod waits for

The run of a pod creates it and then waits for a pod of that name.  A pod need not state its name: the
server then makes one up, which begins as the pod says and is longer.  The wait does not use the name
under which the pod was created, but the one by which the pod was known before, so it is about the pod
that was created exactly if the pod states its name.

Main statement: for every pod, among all other pods of a cluster and over all of its changes, how the
wait ends where the pod that was created finishes in time (`runToCompletion_returns_created_iff`).
-/

namespace Provisioning

open ClusterObject

/-! ## Names that the server makes up -/

namespace Pod

/-- A pod states its name; an empty one counts as none. -/
def StatesName (pod : Pod) : Prop :=
  ∃ name, pod.metadata.name = some name ∧ name ≠ ""

/-- How the server takes in a pod: in its namespace, and under the name that it states or else under
one that is longer than its beginning. -/
inductive TakenInAs (pod created : Pod) : Prop where
  | stated (states : pod.StatesName)
      (home : created.metadata.namespaceName = pod.metadata.namespaceName)
      (name : created.metadata.name = pod.metadata.name)
  | generated (beginning suffix : String) (nameless : ¬ pod.StatesName)
      (home : created.metadata.namespaceName = pod.metadata.namespaceName)
      (begins : pod.metadata.generateName = some beginning) (longer : suffix ≠ "")
      (name : created.metadata.name = some (beginning ++ suffix))

variable {pod created : Pod}

/-- Without a stated name, a pod is known by no name or by the beginning of one. -/
theorem name_of_nameless (nameless : ¬ pod.StatesName) :
    pod.name = "" ∨ some pod.name = pod.metadata.generateName := by
  unfold Pod.name Metadata.anyName
  cases isName : pod.metadata.name with
  | none =>
      cases pod.metadata.generateName with
      | none => exact Or.inl rfl
      | some beginning => exact Or.inr rfl
  | some name =>
      have empty : name = "" := by
        by_contra nonempty
        exact nameless ⟨name, isName, nonempty⟩
      exact Or.inl empty

/-- A pod is created under the name by which it was known exactly if it states its name. -/
theorem TakenInAs.key_eq_iff (takenIn : pod.TakenInAs created) :
    key created = ⟨pod.home, pod.name⟩ ↔ pod.StatesName := by
  cases takenIn with
  | stated states home name =>
      obtain ⟨_, isName, _⟩ := states
      have sameHome : created.metadata.home = pod.home := by
        rw [Pod.home, Metadata.home, Metadata.home, home]
      have sameName : created.metadata.anyName = pod.name := by
        rw [Pod.name, Metadata.anyName, Metadata.anyName, name, isName]
        rfl
      exact iff_of_true (ObjectKey.ext sameHome sameName) ⟨_, isName, ‹_›⟩
  | generated beginning suffix nameless home begins longer name =>
      refine iff_of_false ?_ nameless
      intro same
      have sameName : beginning ++ suffix = pod.name := by
        have known : created.metadata.anyName = pod.name := congrArg ObjectKey.name same
        rw [Metadata.anyName, name] at known
        exact known
      rcases name_of_nameless nameless with empty | isBeginning
      · exact longer (String.append_eq_empty_iff.mp (sameName.trans empty)).2
      · rw [begins, Option.some.injEq] at isBeginning
        have unchanged : beginning ++ suffix = beginning ++ "" := by
          rw [sameName, isBeginning, String.append_empty]
        exact longer ((String.append_right_inj beginning).mp unchanged)

end Pod

/-! ## What was created stays -/

section Staying

variable {α : Type} [ClusterObject α] {store : Store α} {place : ObjectKey}

private theorem Store.exists_find?_changed {change : ObjectChange α}
    (present : ∃ object, store.find? place = some object) (kept : change ≠ .removed place) :
    ∃ object, (store.changed change).find? place = some object := by
  cases change with
  | put written =>
      rw [changed, find?_put]
      by_cases same : key written = place
      · exact ⟨written, if_pos same⟩
      · rw [if_neg same]
        exact present
  | removed other =>
      have different : place ≠ other := by
        intro same
        exact kept (same ▸ rfl)
      rw [changed, find?_remove, if_neg different]
      exact present

/-- What is there stays there as long as it is not removed, by induction on the changes. -/
theorem Store.exists_find?_changedBy {changes : List (Duration × ObjectChange α)}
    (present : ∃ object, store.find? place = some object)
    (kept : ∀ change ∈ changes, change.2 ≠ .removed place) :
    ∃ object, (store.changedBy changes).find? place = some object := by
  induction changes generalizing store with
  | nil => exact present
  | cons first rest inductionHypothesis =>
      have next := exists_find?_changed present (kept first List.mem_cons_self)
      exact inductionHypothesis next fun change inRest => kept change (List.mem_cons_of_mem _ inRest)

namespace Chronicle

variable {chronicle : Chronicle α} {position later : Nat} {object : α}

/-- A change of a chronicle creates an object under a key that is free. -/
def Creates (chronicle : Chronicle α) (object : α) (position : Nat) : Prop :=
  (∃ instant, chronicle.changes[position]? = some (instant, .put object)) ∧
    (chronicle.after position).find? (key object) = none

private theorem after_succ {change : Duration × ObjectChange α}
    (isChange : chronicle.changes[position]? = some change) :
    chronicle.after (position + 1) = (chronicle.after position).changed change.2 := by
  rw [after, List.take_add_one, isChange, Store.changedBy, List.foldl_append]
  rfl

/-- What was created is there, in some version, as long as nobody removes it. -/
theorem Creates.exists_version (creates : chronicle.Creates object position)
    (kept : ∀ change ∈ chronicle.changes.drop (position + 1), change.2 ≠ .removed (key object))
    (since : position + 1 ≤ later) :
    ∃ version, (chronicle.after later).find? (key object) = some version := by
  obtain ⟨⟨instant, isChange⟩, _⟩ := creates
  obtain ⟨span, rfl⟩ := Nat.exists_eq_add_of_le since
  rw [chronicle.after_add]
  refine Store.exists_find?_changedBy ⟨object, ?_⟩ fun change inSpan =>
    kept change (List.mem_of_mem_take inSpan)
  rw [after_succ isChange, Store.changed, Store.find?_put, if_pos rfl]

end Chronicle

end Staying

/-! ## Pods in a cluster that changes -/

/-- An instant, and how many changes come before all that is read from then on. -/
structure Moment where
  instant : Duration
  made : Nat

instance : LE Moment :=
  ⟨fun earlier later => earlier.instant ≤ later.instant ∧ earlier.made ≤ later.made⟩

/-- How a cluster answers a call of the pod operations from one moment to another.  A pod that is
created is there from then on, and a wait ends as it does on what it sees; about the other calls
nothing is said. -/
def PodCall.AnsweredIn (chronicle : Chronicle Pod) (before : Moment) :
    (request : PodCall) → request.Answer → Moment → Prop
  | .create pod, .ok created, after =>
      before ≤ after ∧ pod.TakenInAs created ∧
        ∃ position, chronicle.Creates created position ∧ after.made = position + 1
  | .awaitGoal goal locator timeout, outcome, after =>
      before ≤ after ∧
        match Wait.deadline? before.instant timeout with
        | none => outcome = .beyondClock
        | some deadline => ∃ sighting : Sighting chronicle locator deadline before.made,
            sighting.Ends goal.isReached before.instant timeout outcome after.instant
  | _, _, after => before ≤ after

/-- From some changes on nobody removes a pod, and it finishes before the deadline, in a state in which
it stays. -/
structure Chronicle.Finishes (chronicle : Chronicle Pod) (pod : Pod) (made : Nat)
    (deadline : Duration) (state : PodState) : Prop where
  kept : ∀ change ∈ chronicle.changes.drop made, change.2 ≠ .removed (key pod)
  isFinished : state.isFinished = true
  /-- The pod does not finish in any other state. -/
  isFinal : ∀ later version, made ≤ later →
    (chronicle.after later).find? (key pod) = some version → version.state.isFinished = true →
      version.state = state
  inTime : ∃ settled, made ≤ settled ∧
    (∀ change ∈ chronicle.changes.take settled, change.1 < deadline) ∧
    ∀ later version, settled ≤ later →
      (chronicle.after later).find? (key pod) = some version → version.state = state

namespace PodOperation

variable {settings : Settings} {chronicle : Chronicle Pod} {pod created : Pod}
  {goal : PodGoal} {locator : Locator} {timeout deadline : Duration}
  {begun answered finish : Moment}
  {exchanges : List (Program.Exchange PodCall PodCall.Answer)}

/-! ### The wait -/

private theorem sub_of_deadline? {start : Duration}
    (reach : Wait.deadline? start timeout = some deadline) : deadline - start = timeout := by
  rw [Wait.eq_of_deadline? reach]
  exact congrArg Duration.mk (Nat.add_sub_cancel_left _ _)

/-- What a wait for a pod returns, of how the wait ends. -/
def resultOf (outcome : Wait.End Pod) : PodProgram (Except PodError Pod) :=
  match outcome with
  | .met pod => .done (.ok pod)
  | .failed error => .done (.error (.wait error))
  | .beyondClock => .abort Wait.beyondClockMessage

/-- A wait for a pod that has gone on has ended, as it does on what it saw of the cluster. -/
theorem exists_sighting_of_goes {left : PodProgram (Except PodError Pod)}
    (reach : Wait.deadline? answered.instant timeout = some deadline)
    (goes : (awaitGoal goal locator timeout).run.Goes (PodCall.AnsweredIn chronicle) answered
      exchanges left finish) (goesOn : exchanges ≠ []) :
    ∃ sighting : Sighting chronicle locator deadline answered.made,
      left = resultOf (sighting.outcome goal.isReached answered.instant) := by
  rw [run_awaitGoal] at goes
  rcases Program.goes_call_iff.mp goes with ⟨nothing, _⟩ | ⟨outcome, middle, rest, _, given, ends⟩
  · exact absurd nothing goesOn
  · obtain ⟨_, seen⟩ := given
    rw [reach] at seen
    obtain ⟨sighting, waited⟩ := seen
    refine ⟨sighting, ?_⟩
    rw [← waited.eq_outcome reach]
    cases outcome with
    | met pod => exact (Program.goes_done_iff.mp ends).2.1
    | failed error => exact (Program.goes_done_iff.mp ends).2.1
    | beyondClock => exact (Program.goes_abort_iff.mp ends).2.1

/-- Whatever a wait for a pod sees, it goes on to its end. -/
theorem exists_goes_of_sighting
    (reach : Wait.deadline? answered.instant timeout = some deadline)
    (sighting : Sighting chronicle locator deadline answered.made) :
    ∃ finish, (awaitGoal goal locator timeout).run.Goes (PodCall.AnsweredIn chronicle) answered
      [⟨.awaitGoal goal locator timeout, sighting.outcome goal.isReached answered.instant⟩]
      (resultOf (sighting.outcome goal.isReached answered.instant)) finish := by
  obtain ⟨elapsed, spare, ended, waited, isOver⟩ := sighting.exists_ends goal.isReached reach
  let finish : Moment := ⟨answered.instant + elapsed, answered.made⟩
  have isLater : answered ≤ finish := ⟨Nat.le_add_right _ _, Nat.le_refl _⟩
  have inTime : ended.clock ≤ finish.instant := Nat.le_trans isOver (Nat.le_add_left _ _)
  have given : PodCall.AnsweredIn chronicle answered (.awaitGoal goal locator timeout)
      (sighting.outcome goal.isReached answered.instant) finish := by
    refine ⟨isLater, ?_⟩
    rw [reach]
    exact ⟨sighting, spare, ended, waited, inTime⟩
  refine ⟨finish, ?_⟩
  rw [run_awaitGoal]
  refine .call given ?_
  cases sighting.outcome goal.isReached answered.instant with
  | met pod => exact .still _ _
  | failed error => exact .still _ _
  | beyondClock => exact .still _ _

/-- A wait for a pod with a name returns one that has the name and reached the goal, from the moment on
at which it began, or it times out. -/
theorem resultOf_named {namespaceName name : String} {start : Duration} {made : Nat}
    (reach : Wait.deadline? start timeout = some deadline)
    (sighting : Sighting chronicle (.named namespaceName name) deadline made) :
    (∃ found later, resultOf (sighting.outcome goal.isReached start) = .done (.ok found) ∧
      made ≤ later ∧ (chronicle.after later).find? ⟨namespaceName, name⟩ = some found ∧
      goal.isReached found = true) ∨
    resultOf (sighting.outcome goal.isReached start) =
      .done (.error (.wait (.timedOut (.named namespaceName name) timeout))) := by
  rcases sighting.met_or_timedOut goal.isReached start with
    ⟨found, later, isMet, reached, since, located⟩ | isLate
  · rw [isMet]
    exact Or.inl ⟨found, later, rfl, since, Store.mem_located_named_iff.mp located, reached⟩
  · rw [isLate, sub_of_deadline? reach]
    exact Or.inr rfl

/-- With a pod that reached the goal in time, a wait does not time out. -/
theorem exists_ok_of_meets {start : Duration} {made settled : Nat}
    (sighting : Sighting chronicle locator deadline made)
    (before : ∀ change ∈ chronicle.changes.take settled, change.1 < deadline)
    (meets : ∀ later, settled ≤ later → (chronicle.after later).Meets locator goal.isReached) :
    ∃ found, resultOf (sighting.outcome goal.isReached start) = .done (.ok found) := by
  obtain ⟨found, isMet⟩ := sighting.exists_met start before meets
  rw [isMet]
  exact ⟨found, rfl⟩

/-! ### The run of a pod -/

/-- A run that has created its pod waits for the name by which the pod was known before. -/
theorem waits_of_created {waiting : PodProgram (Except PodError Pod)}
    (goes : (runToCompletion settings pod).run.Goes (PodCall.AnsweredIn chronicle) begun
      [⟨.create pod, .ok created⟩] waiting answered) :
    PodCall.AnsweredIn chronicle begun (.create pod) (.ok created) answered ∧
      waiting = (awaitGoal .finished (.named pod.home pod.name)
        settings.podCompletionTimeout).run := by
  rw [run_runToCompletion] at goes
  cases homed : pod.metadata.namespaceName with
  | none =>
      rw [homed] at goes
      cases (Program.goes_done_iff.mp goes).1
  | some namespaceName =>
      have isHome : pod.home = namespaceName := by
        rw [Pod.home, Metadata.home, homed, Option.getD_some]
      rw [homed] at goes
      rcases Program.goes_call_iff.mp goes with ⟨nothing, _⟩ | ⟨_, _, _, made, given, stands⟩
      · cases nothing
      · cases made
        cases stands
        rw [isHome]
        exact ⟨given, rfl⟩

/-- From some changes before the deadline on, the pod that was created is there and has finished. -/
theorem exists_settled {state : PodState} {position : Nat}
    (creates : chronicle.Creates created position)
    (finishes : chronicle.Finishes created (position + 1) deadline state) :
    ∃ settled, (∀ change ∈ chronicle.changes.take settled, change.1 < deadline) ∧
      ∀ later, settled ≤ later → (chronicle.after later).Meets
        (.named (key created).namespaceName (key created).name) PodGoal.finished.isReached := by
  obtain ⟨settled, since, before, ends⟩ := finishes.inTime
  refine ⟨settled, before, ?_⟩
  intro later isLater
  obtain ⟨version, found⟩ := creates.exists_version finishes.kept (Nat.le_trans since isLater)
  refine Store.meets_named_iff.mpr ⟨version, found, ?_⟩
  show version.state.isFinished = true
  rw [ends later version isLater found]
  exact finishes.isFinished

/-- For every run that has created its pod, in a cluster where nobody removes that pod and where it
finishes before the deadline, among any other pods and over any other changes: whatever the wait sees
of the cluster, it ends, and with the pod that was created, in its final state, exactly if the pod
states its name.  Otherwise the run is not told of its own pod: it returns another one, known by the
mere beginning of the name, or times out; it times out if no such pod ever finishes, and returns one
if one has finished in time. -/
theorem runToCompletion_returns_created_iff {waiting : PodProgram (Except PodError Pod)}
    {state : PodState}
    (goes : (runToCompletion settings pod).run.Goes (PodCall.AnsweredIn chronicle) begun
      [⟨.create pod, .ok created⟩] waiting answered)
    (reach : Wait.deadline? answered.instant settings.podCompletionTimeout = some deadline)
    (finishes : chronicle.Finishes created answered.made deadline state) :
    let sought : Locator := .named pod.home pod.name
    let timedOut : PodError := .wait (.timedOut sought settings.podCompletionTimeout)
    (∀ sighting : Sighting chronicle sought deadline answered.made, ∃ result finish,
      waiting.Goes (PodCall.AnsweredIn chronicle) answered
        [⟨.awaitGoal .finished sought settings.podCompletionTimeout,
          sighting.outcome PodGoal.finished.isReached answered.instant⟩] (.done result) finish) ∧
    ∀ exchanges left finish,
      waiting.Goes (PodCall.AnsweredIn chronicle) answered exchanges left finish →
      exchanges ≠ [] → ∃ result, left = .done result ∧
        ((∃ final later, result = .ok final ∧ answered.made ≤ later ∧
          (chronicle.after later).find? (key created) = some final ∧ final.state = state) ↔
            pod.StatesName) ∧
        (¬ pod.StatesName →
          (result = .error timedOut ∨ ∃ other, result = .ok other ∧ key other ≠ key created ∧
            key other = ⟨pod.home, pod.name⟩) ∧
          ((∀ later, answered.made ≤ later →
              ¬ (chronicle.after later).Meets sought PodGoal.finished.isReached) →
            result = .error timedOut) ∧
          ∀ settled, (∀ change ∈ chronicle.changes.take settled, change.1 < deadline) →
            (∀ later, settled ≤ later →
              (chronicle.after later).Meets sought PodGoal.finished.isReached) →
            ∃ other, result = .ok other) := by
  intro sought timedOut
  obtain ⟨⟨_, takenIn, position, creates, isMade⟩, rfl⟩ := waits_of_created goes
  rw [isMade] at finishes
  constructor
  · intro sighting
    obtain ⟨finish, ends⟩ := exists_goes_of_sighting reach sighting
    rcases resultOf_named reach sighting with ⟨found, _, isResult, _⟩ | isResult
    · rw [isResult] at ends
      exact ⟨_, finish, ends⟩
    · rw [isResult] at ends
      exact ⟨_, finish, ends⟩
  intro exchanges left finish ends goesOn
  obtain ⟨sighting, rfl⟩ := exists_sighting_of_goes reach ends goesOn
  rcases resultOf_named reach sighting with
    ⟨found, later, isResult, since, isFound, reached⟩ | isResult
  · refine ⟨_, isResult, ?_, ?_⟩
    · rw [← takenIn.key_eq_iff]
      constructor
      · rintro ⟨final, other, same, _, isFinal, _⟩
        cases same
        exact (Store.key_of_find? isFinal).symm.trans (Store.key_of_find? isFound)
      · intro sameKey
        rw [← sameKey] at isFound
        rw [isMade] at since
        exact ⟨found, later, rfl, isMade ▸ since, isFound,
          finishes.isFinal later found since isFound reached⟩
    · intro nameless
      refine ⟨Or.inr ⟨found, rfl, ?_, Store.key_of_find? isFound⟩, ?_, fun _ _ _ => ⟨found, rfl⟩⟩
      · rw [Store.key_of_find? isFound]
        intro same
        exact nameless (takenIn.key_eq_iff.mp same.symm)
      · intro never
        exact absurd (Store.meets_named_iff.mpr ⟨found, isFound, reached⟩) (never later since)
  · refine ⟨_, isResult, iff_of_false ?_ ?_, ?_⟩
    · rintro ⟨final, _, isOk, _⟩
      cases isOk
    · intro states
      obtain ⟨settled, before, meets⟩ := exists_settled creates finishes
      rw [takenIn.key_eq_iff.mpr states] at meets
      obtain ⟨found, isOk⟩ := exists_ok_of_meets sighting before meets
      rw [isResult] at isOk
      cases isOk
    · intro _
      refine ⟨Or.inl rfl, fun _ => rfl, ?_⟩
      intro settled before meets
      obtain ⟨found, isOk⟩ := exists_ok_of_meets sighting before meets
      rw [isResult] at isOk
      cases isOk

/-! ### A name that the server makes up -/

/-- A pod that leaves its name to the server. -/
def jobTemplate : Pod where
  metadata := { generateName := some "job-", namespaceName := some "retail" }

/-- The pod as it was created. -/
def job : Pod where
  metadata :=
    { name := some "job-x7k2p", generateName := some "job-", namespaceName := some "retail" }

def completedJob : Pod :=
  { job with status := some { phase := some "Succeeded" } }

/-- The pod is created and completes soon. -/
def jobChronicle : Chronicle Pod where
  initial := .empty
  changes := [(⟨1⟩, .put job), (⟨2⟩, .put completedJob)]
  ordered := by decide

private theorem jobChronicle_after {later : Nat} (since : 1 ≤ later) :
    (jobChronicle.after later).objects = [job] ∨
      (jobChronicle.after later).objects = [completedJob] := by
  by_cases isFirst : later = 1
  · rw [isFirst]
    exact Or.inl rfl
  · have all : jobChronicle.changes.take later = jobChronicle.changes.take 2 :=
      List.take_of_length_le (by show 2 ≤ later; omega)
    rw [Chronicle.after, all]
    exact Or.inr rfl

private theorem find?_jobChronicle {later : Nat} {place : ObjectKey} {version : Pod} (since : 1 ≤ later)
    (found : (jobChronicle.after later).find? place = some version) :
    place = key job ∧ (version = job ∨ version = completedJob) := by
  obtain ⟨member, rfl⟩ := Store.find?_eq_some_iff.mp found
  rcases jobChronicle_after since with isJob | isCompleted
  · rw [isJob, List.mem_singleton] at member
    rw [member]
    exact ⟨rfl, Or.inl rfl⟩
  · rw [isCompleted, List.mem_singleton] at member
    rw [member]
    exact ⟨rfl, Or.inr rfl⟩

private theorem finishes_job : jobChronicle.Finishes job 1 ⟨600000000001⟩ .completed where
  kept := by
    intro change member
    cases List.mem_singleton.mp member
    exact nofun
  isFinished := rfl
  isFinal := by
    intro later version since found finished
    rcases (find?_jobChronicle since found).2 with rfl | rfl
    · cases finished
    · rfl
  inTime := by
    refine ⟨2, by decide, by decide, ?_⟩
    intro later version since found
    have all : jobChronicle.changes.take later = jobChronicle.changes.take 2 :=
      List.take_of_length_le since
    rw [Chronicle.after, all] at found
    cases found
    rfl

/-- What the wait sees of the cluster: there is no pod with the mere beginning of the name. -/
private def jobSighting : Sighting jobChronicle (.named "retail" "job-") ⟨600000000001⟩ 1 where
  position := 1
  isAfter := Nat.le_refl _
  get _ _ := .ok none
  list _ _ := .ok []
  reads := rfl
  instant := ⟨2⟩
  inTime := by decide
  watch :=
    { position := 1
      listed := []
      isListed := .refl _
      listing := [⟨⟨3⟩, .listing⟩, ⟨⟨3⟩, .complete⟩]
      isListing := rfl
      inTime := by decide
      following := []
      isFollowing := .nil
      ordered := by decide }
  isLater := Nat.le_refl _
  inclusive := true

/-- A pod that leaves its name to the server completes at once, and the run that created it waits for
ten minutes and times out. -/
theorem runToCompletion_loses_job :
    ∃ waiting exchanges finish,
      (runToCompletion (Settings.ofVariables fun _ => none) jobTemplate).run.Goes
        (PodCall.AnsweredIn jobChronicle) ⟨⟨0⟩, 0⟩ [⟨.create jobTemplate, .ok job⟩] waiting
        ⟨⟨1⟩, 1⟩ ∧
      waiting.Goes (PodCall.AnsweredIn jobChronicle) ⟨⟨1⟩, 1⟩ exchanges
        (.done (.error (.wait (.timedOut (.named "retail" "job-") (.ofSeconds 600))))) finish := by
  have nameless : ¬ jobTemplate.StatesName := by
    rintro ⟨_, isName, _⟩
    cases isName
  have takenIn : jobTemplate.TakenInAs job :=
    .generated "job-" "x7k2p" nameless rfl rfl (by decide) rfl
  have creates : jobChronicle.Creates job 0 := ⟨⟨⟨1⟩, rfl⟩, rfl⟩
  have given : PodCall.AnsweredIn jobChronicle ⟨⟨0⟩, 0⟩ (.create jobTemplate) (.ok job)
      ⟨⟨1⟩, 1⟩ :=
    ⟨⟨Nat.zero_le _, Nat.zero_le _⟩, takenIn, 0, creates, rfl⟩
  have reach : Wait.deadline? ⟨1⟩ (.ofSeconds 600) = some ⟨600000000001⟩ := by decide
  have goes : (runToCompletion (Settings.ofVariables fun _ => none) jobTemplate).run.Goes
      (PodCall.AnsweredIn jobChronicle) ⟨⟨0⟩, 0⟩ [⟨.create jobTemplate, .ok job⟩]
      (awaitGoal .finished (.named "retail" "job-") (.ofSeconds 600)).run ⟨⟨1⟩, 1⟩ :=
    .call given (.still _ _)
  have never : ∀ later, 1 ≤ later → ¬ (jobChronicle.after later).Meets (.named "retail" "job-")
      PodGoal.finished.isReached := by
    intro later since meets
    obtain ⟨found, isFound, _⟩ := Store.meets_named_iff.mp meets
    exact absurd (find?_jobChronicle since isFound).1 (by decide)
  obtain ⟨ends, results⟩ := runToCompletion_returns_created_iff goes reach finishes_job
  obtain ⟨_, finish, waited⟩ := ends jobSighting
  obtain ⟨result, isResult, _, lost⟩ := results _ _ _ waited (List.cons_ne_nil _ _)
  have timedOut := (lost nameless).2.1 never
  cases isResult
  rw [timedOut] at waited
  exact ⟨_, _, finish, goes, waited⟩

end PodOperation

end Provisioning
