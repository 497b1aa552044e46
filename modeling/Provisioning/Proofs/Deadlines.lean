import Mathlib.Data.List.Basic
import Provisioning.Proofs.Breaking
import Provisioning.Proofs.PodCalls
import Provisioning.Proofs.TimedWait

/-!
# Timeouts beyond the clock

The settings take every whole number of seconds that fits into 64 bits, but a clock counts seconds in
63.  A wait whose deadline lies beyond the clock breaks its program off; nothing else does, and a poll,
which only compares the time that has gone by with its timeout, never does.

Main statement: with settings from any variables, which programs break off, when, and after which
calls (`configured_breaks_iff`).
-/

namespace Provisioning

/-! ## Deadlines -/

namespace Wait

variable {α : Type} {condition : α → Bool} {locator : Locator}
  {start finish timeout : Duration}

@[simp]
theorem deadline?_eq_none_iff :
    deadline? start timeout = none ↔ clockReach ≤ (start + timeout).seconds := by
  simp only [deadline?]
  split
  · rename_i inReach
    simp only [reduceCtorEq, false_iff]
    omega
  · rename_i beyond
    simp only [true_iff]
    omega

/-- A wait with a deadline ends with an object or an error. -/
theorem expectedUntil_ne_beyondClock (script : Script α) (deadline : Duration) :
    (script.expectedUntil condition locator start deadline).outcome ≠ .beyondClock := by
  unfold Script.expectedUntil
  cases script.current.filter (Arrival.isTimely script.inclusive start deadline) with
  | none => simp
  | some arrival =>
      obtain ⟨_, error | objects⟩ := arrival
      · simp
      · dsimp only
        cases objects.find? condition with
        | some object => simp
        | none =>
            dsimp only
            cases script.subscribed.filter
                (Arrival.isTimely script.inclusive start deadline) with
            | none => simp
            | some arrival =>
                obtain ⟨_, error | _⟩ := arrival
                · simp
                · dsimp only
                  unfold Script.streamOutcome
                  cases script.items.find? fun item =>
                      StreamItem.decides condition item.answer with
                  | none => simp
                  | some item =>
                      dsimp only
                      split
                      · rcases item with ⟨_, _ | _ | event⟩ <;> simp [StreamItem.verdict]
                      · simp

end Wait

/-- A wait that begins at one instant is over by another, and ends as it does on some script. -/
def Waits {α : Type} (condition : α → Bool) (locator : Locator) (timeout start : Duration)
    (outcome : Wait.End α) (finish : Duration) : Prop :=
  ∃ (script : Script α) (spare : Nat) (ended : Playback α),
    Wait.run script.source (noted condition) locator timeout (script.items.length + 1 + spare)
        { clock := start, left := script.items } = (some outcome, ended) ∧
      ended.clock ≤ finish

section Waits

variable {α : Type} {condition : α → Bool} {locator : Locator} {timeout start finish : Duration}
  {outcome : Wait.End α}

theorem Wait.run_of_beyondClock (script : Script α) (spare : Nat)
    (beyond : Wait.clockReach ≤ (start + timeout).seconds) :
    Wait.run script.source (noted condition) locator timeout (script.items.length + 1 + spare)
        { clock := start, left := script.items } =
      (some .beyondClock, { clock := start, left := script.items }) := by
  have starts : script.source.now { clock := start, left := script.items } =
      (start, { clock := start, left := script.items }) := rfl
  rw [Wait.run, bind_of_eq starts]
  simp only [Wait.deadline?_eq_none_iff.mpr beyond]
  rfl

/-- Whatever its source, a wait is given up exactly if its deadline lies beyond the clock. -/
theorem Waits.eq_beyondClock_iff (waits : Waits condition locator timeout start outcome finish) :
    outcome = .beyondClock ↔ Wait.clockReach ≤ (start + timeout).seconds := by
  obtain ⟨script, spare, ended, waited, _⟩ := waits
  constructor
  · rintro rfl
    rw [← Wait.deadline?_eq_none_iff]
    cases reach : Wait.deadline? start timeout with
    | none => rfl
    | some deadline =>
        obtain ⟨_, same, _⟩ := Wait.run_until script condition locator reach spare
        rw [same, Prod.mk.injEq, Option.some.injEq] at waited
        exact absurd waited.1 (Wait.expectedUntil_ne_beyondClock script deadline)
  · intro beyond
    rw [Wait.run_of_beyondClock script spare beyond, Prod.mk.injEq, Option.some.injEq] at waited
    exact waited.1.symm

@[simp]
theorem waits_beyondClock_iff :
    Waits condition locator timeout start .beyondClock finish ↔
      Wait.clockReach ≤ (start + timeout).seconds ∧ start ≤ finish := by
  constructor
  · intro waits
    have beyond := waits.eq_beyondClock_iff.mp rfl
    obtain ⟨script, spare, ended, waited, isOver⟩ := waits
    rw [Wait.run_of_beyondClock script spare beyond, Prod.mk.injEq] at waited
    rw [← waited.2] at isOver
    exact ⟨beyond, isOver⟩
  · rintro ⟨beyond, isOver⟩
    let silent : Script α := ⟨true, none, none, [], .nil⟩
    exact ⟨silent, 0, _, Wait.run_of_beyondClock silent 0 beyond, isOver⟩

end Waits

/-! ## The calls on a clock -/

/-- How a call of provisioning is answered from one instant to another: with anything, but a wait
ends as waits do. -/
def CapabilityCall.AnsweredBy (start : Duration) :
    (request : CapabilityCall) → request.Answer → Duration → Prop
  | .get .., _, finish => start ≤ finish
  | .listIn .., _, finish => start ≤ finish
  | .listAll .., _, finish => start ≤ finish
  | .create _, _, finish => start ≤ finish
  | .loadDefaults, _, finish => start ≤ finish
  | .awaitSettled namespaceName name timeout, outcome, finish =>
      Waits (fun capability : Capability => capability.phase.isTerminal)
        (.named namespaceName name) timeout start outcome finish

/-- How a call of the pod operations is answered from one instant to another: with anything, but a
wait ends as waits do, and the clock goes on while a program sleeps. -/
def PodCall.AnsweredBy (start : Duration) :
    (request : PodCall) → request.Answer → Duration → Prop
  | .create _, _, finish => start ≤ finish
  | .list .., _, finish => start ≤ finish
  | .delete .., _, finish => start ≤ finish
  | .awaitGoal goal locator timeout, outcome, finish =>
      Waits goal.isReached locator timeout start outcome finish
  | .now, instant, finish => start ≤ instant ∧ instant ≤ finish
  | .sleep span, _, finish => start + span ≤ finish

/-! ## Provisioning -/

namespace Provision

variable {operatorNamespace : String} {serial : Serial} {requester : Requester}
  {requirement : Requirement} {timeout : Duration}

/-- A call breaks off exactly by coming to a wait whose deadline lies beyond the clock. -/
theorem provide_breaks_iff {start finish : Duration}
    {exchanges : List (Program.Exchange CapabilityCall CapabilityCall.Answer)}
    {message : String} :
    (provide operatorNamespace serial requester requirement timeout).Goes CapabilityCall.AnsweredBy
        start exchanges (.abort message) finish ↔
      message = Wait.beyondClockMessage ∧ ∃ front namespaceName name next instant,
        exchanges = front ++ [⟨.awaitSettled namespaceName name timeout, .beyondClock⟩] ∧
        (provide operatorNamespace serial requester requirement timeout).Goes
          CapabilityCall.AnsweredBy start front
          (.call (.awaitSettled namespaceName name timeout) next) instant ∧
        Wait.clockReach ≤ (instant + timeout).seconds ∧ instant ≤ finish := by
  rw [breaksAtWaits_provide.goes_abort_iff]
  refine and_congr_right fun _ => ?_
  constructor
  · rintro ⟨front, request, answer, next, instant, rfl, reached, given, isFatal⟩
    cases request with
    | awaitSettled namespaceName name span =>
        obtain ⟨rfl, rfl⟩ := isFatal
        exact ⟨front, namespaceName, name, next, instant, rfl, reached,
          waits_beyondClock_iff.mp given⟩
    | _ => exact isFatal.elim
  · rintro ⟨front, namespaceName, name, next, instant, rfl, reached, beyond⟩
    exact ⟨front, .awaitSettled namespaceName name timeout, .beyondClock, next, instant, rfl,
      reached, waits_beyondClock_iff.mpr beyond, rfl, rfl⟩

end Provision

/-! ## Pods -/

namespace PodOperation

variable {σ α β : Type} {answers : σ → (request : PodCall) → request.Answer → σ → Prop}

/-- A wait for a pod breaks off exactly if its deadline lies beyond the clock. -/
theorem awaitGoal_breaks_iff {goal : PodGoal} {locator : Locator} {timeout start finish : Duration}
    {exchanges : List (Program.Exchange PodCall PodCall.Answer)} {message : String} :
    (awaitGoal goal locator timeout).run.Goes PodCall.AnsweredBy start exchanges (.abort message)
        finish ↔
      message = Wait.beyondClockMessage ∧
        exchanges = [⟨.awaitGoal goal locator timeout, .beyondClock⟩] ∧
        Wait.clockReach ≤ (start + timeout).seconds ∧ start ≤ finish := by
  rw [run_awaitGoal, Program.goes_call_iff]
  constructor
  · rintro (⟨_, isCall, _⟩ | ⟨answer, middle, rest, rfl, given, goes⟩)
    · cases isCall
    · cases answer with
      | met pod => cases (Program.goes_done_iff.mp goes).2.1
      | failed error => cases (Program.goes_done_iff.mp goes).2.1
      | beyondClock =>
          obtain ⟨rfl, isAbort, rfl⟩ := Program.goes_abort_iff.mp goes
          cases isAbort
          exact ⟨rfl, rfl, waits_beyondClock_iff.mp given⟩
  · rintro ⟨rfl, rfl, beyond⟩
    exact Or.inr ⟨.beyondClock, finish, [], rfl, waits_beyondClock_iff.mpr beyond, .still _ _⟩

/-- The run of a pod breaks off exactly if the wait for its end does, after the pod was created. -/
theorem runToCompletion_breaks_iff {settings : Settings} {pod : Pod} {start finish : Duration}
    {exchanges : List (Program.Exchange PodCall PodCall.Answer)} {message : String} :
    (runToCompletion settings pod).run.Goes PodCall.AnsweredBy start exchanges (.abort message)
        finish ↔
      message = Wait.beyondClockMessage ∧ ∃ namespaceName created instant,
        pod.metadata.namespaceName = some namespaceName ∧
        exchanges = [⟨.create pod, .ok created⟩,
          ⟨.awaitGoal .finished (.named namespaceName pod.name) settings.podCompletionTimeout,
            .beyondClock⟩] ∧
        start ≤ instant ∧
        Wait.clockReach ≤ (instant + settings.podCompletionTimeout).seconds ∧
        instant ≤ finish := by
  rw [run_runToCompletion]
  cases pod.metadata.namespaceName with
  | none => simp
  | some namespaceName =>
      simp only [Program.goes_call_iff]
      constructor
      · rintro (⟨_, isCall, _⟩ | ⟨answer, instant, rest, rfl, given, goes⟩)
        · cases isCall
        · cases answer with
          | error failure => cases (Program.goes_done_iff.mp goes).2.1
          | ok created =>
              obtain ⟨isMessage, rfl, beyond, isOver⟩ := awaitGoal_breaks_iff.mp goes
              exact ⟨isMessage, namespaceName, created, instant, rfl, rfl, given, beyond, isOver⟩
      · rintro ⟨isMessage, _, created, instant, isHome, rfl, given, beyond, isOver⟩
        cases isHome
        exact Or.inr ⟨.ok created, instant, _, rfl, given,
          awaitGoal_breaks_iff.mpr ⟨isMessage, rfl, beyond, isOver⟩⟩

/-! ### The end of a poll -/

private theorem unbroken_bind {attempt : Attempt α} {next : α → Attempt β}
    (front : attempt.run.Unbroken answers) (back : ∀ value, (next value).run.Unbroken answers) :
    (attempt >>= next).run.Unbroken answers := by
  refine front.bind ?_
  intro result _ _ _ _
  cases result with
  | ok value => exact back value
  | error error => exact Program.unbroken_done _

private theorem unbroken_ask (request : PodCall) : (ask request).run.Unbroken answers :=
  Program.unbroken_call fun _ => Program.unbroken_done _

private theorem unbroken_orFail (result : Except Failure α) :
    (orFail result : Attempt α).run.Unbroken answers := by
  cases result with
  | ok value => exact Program.unbroken_done _
  | error failure => exact Program.unbroken_done _

private theorem unbroken_deleteAll (namespaceName : String) (pods : List Pod) :
    (deleteAll namespaceName pods).run.Unbroken answers := by
  induction pods with
  | nil => exact Program.unbroken_done _
  | cons pod rest inductionHypothesis =>
      refine unbroken_bind (unbroken_ask _) fun answer => ?_
      exact unbroken_bind (unbroken_orFail answer) fun _ => inductionHypothesis

/-- A poll goes on only before its timeout. -/
theorem lt_timeout_of_afterCheck {poll : Poll} {elapsed : Duration} {answer : Except Failure Bool}
    (goesOn : poll.afterCheck elapsed answer = none) :
    elapsed.nanoseconds < poll.timeout.nanoseconds :=
  Nat.lt_of_not_le (Poll.afterCheck_eq_none_iff.mp goesOn).2

/-- A check is under way, ends the poll, or is followed by another one: before the timeout, and an
interval later. -/
theorem check_of_repeatRemoval {namespaceName : String} {labels : Labels} {poll : Poll}
    {start clock finish : Duration} {checks : Nat}
    {exchanges : List (Program.Exchange PodCall PodCall.Answer)}
    {left : PodProgram (Option (Except Failure Unit))}
    (goes : (repeatRemoval namespaceName labels poll start (checks + 1)).Goes PodCall.AnsweredBy
      clock exchanges left finish) :
    (∃ request next, left = .call request next) ∨ (∃ result, left = .done (some result)) ∨
      ∃ woken others,
        clock.nanoseconds - start.nanoseconds < poll.timeout.nanoseconds ∧
        clock.nanoseconds + poll.interval.nanoseconds ≤ woken.nanoseconds ∧
        (repeatRemoval namespaceName labels poll start checks).Goes PodCall.AnsweredBy woken others
          left finish := by
  rw [repeatRemoval_succ] at goes
  rcases Program.goes_call_iff.mp goes with
    ⟨_, rfl, _⟩ | ⟨answer, listed, _, _, afterClock, goesOn⟩
  · exact Or.inl ⟨_, _, rfl⟩
  rcases Program.goes_call_iff.mp goesOn with
    ⟨_, rfl, _⟩ | ⟨instant, read, _, _, ⟨afterListed, beforeRead⟩, goesOn⟩
  · exact Or.inl ⟨_, _, rfl⟩
  cases checked : poll.afterCheck (instant - start) (answer.map (·.isEmpty)) with
  | some result =>
      simp only [checked] at goesOn
      exact Or.inr (Or.inl ⟨result, (Program.goes_done_iff.mp goesOn).2.1⟩)
  | none =>
      simp only [checked] at goesOn
      rcases Program.goes_call_iff.mp goesOn with ⟨_, rfl, _⟩ | ⟨_, woken, others, _, slept, goesOn⟩
      · exact Or.inl ⟨_, _, rfl⟩
      have early : instant.nanoseconds - start.nanoseconds < poll.timeout.nanoseconds :=
        lt_timeout_of_afterCheck checked
      have afterClock : clock.nanoseconds ≤ listed.nanoseconds := afterClock
      have afterListed : listed.nanoseconds ≤ instant.nanoseconds := afterListed
      have beforeRead : instant.nanoseconds ≤ read.nanoseconds := beforeRead
      have slept : read.nanoseconds + poll.interval.nanoseconds ≤ woken.nanoseconds := slept
      exact Or.inr (Or.inr ⟨woken, others, by omega, by omega, goesOn⟩)

/-- While enough checks are left for the time that is left, a poll does not run out of them: every
sleep takes an interval off the time, as every check is one less. -/
theorem result_of_repeatRemoval {namespaceName : String} {labels : Labels} {poll : Poll}
    {start clock finish : Duration} {checks : Nat}
    {exchanges : List (Program.Exchange PodCall PodCall.Answer)}
    {left : PodProgram (Option (Except Failure Unit))}
    (begun : start.nanoseconds ≤ clock.nanoseconds)
    (enough : poll.timeout.nanoseconds <
      clock.nanoseconds - start.nanoseconds + checks * poll.interval.nanoseconds)
    (goes : (repeatRemoval namespaceName labels poll start (checks + 1)).Goes PodCall.AnsweredBy
      clock exchanges left finish) :
    (∃ request next, left = .call request next) ∨ ∃ result, left = .done (some result) := by
  induction checks generalizing clock exchanges with
  | zero =>
      rcases check_of_repeatRemoval goes with calls | ended | ⟨woken, others, early, _, _⟩
      · exact Or.inl calls
      · exact Or.inr ended
      · omega
  | succ checks inductionHypothesis =>
      rcases check_of_repeatRemoval goes with calls | ended | ⟨woken, others, early, later, goesOn⟩
      · exact Or.inl calls
      · exact Or.inr ended
      · refine inductionHypothesis (by omega) ?_ goesOn
        have fewer : (checks + 1) * poll.interval.nanoseconds =
            checks * poll.interval.nanoseconds + poll.interval.nanoseconds := Nat.succ_mul _ _
        omega

/-- The poll for the end of pods ends with a result. -/
theorem result_of_removalPoll {settings : Settings} {namespaceName : String} {labels : Labels}
    {start finish : Duration} {exchanges : List (Program.Exchange PodCall PodCall.Answer)}
    {left : PodProgram (Option (Except Failure Unit))}
    (goes : ((removalPoll settings namespaceName labels).run (Program.perform PodCall.now)
      (fun span => Program.perform (PodCall.sleep span)) (areGone namespaceName labels)
      (removalPoll settings namespaceName labels).checkBound).Goes PodCall.AnsweredBy start
      exchanges left finish) :
    (∃ request next, left = .call request next) ∨ ∃ result, left = .done (some result) := by
  rcases Program.goes_call_iff.mp goes with ⟨_, rfl, _⟩ | ⟨instant, read, _, _, given, goesOn⟩
  · exact Or.inl ⟨_, _, rfl⟩
  · have begun : instant.nanoseconds ≤ read.nanoseconds := given.2
    refine result_of_repeatRemoval begun ?_ goesOn
    have positive : 0 < (removalPoll settings namespaceName labels).interval.nanoseconds :=
      show 0 < removalInterval.nanoseconds by decide
    have enough := Nat.lt_div_mul_add positive
      (a := (removalPoll settings namespaceName labels).timeout.nanoseconds)
    rw [Nat.succ_mul]
    omega

/-- The wait for the end of pods never breaks off: it has no deadline, and its checks do not run out
before its timeout. -/
theorem unbroken_awaitRemoval (settings : Settings) (namespaceName : String) (labels : Labels) :
    (awaitRemoval settings namespaceName labels).run.Unbroken PodCall.AnsweredBy := by
  rw [awaitRemoval, ExceptT.run_bind_lift]
  refine Program.Unbroken.bind ?_ ?_
  · intro start exchanges message finish goes
    rcases result_of_removalPoll goes with ⟨_, _, isCall⟩ | ⟨_, isDone⟩
    · cases isCall
    · cases isDone
  · intro result? start exchanges finish goes
    rcases result_of_removalPoll goes with ⟨_, _, isCall⟩ | ⟨result, isDone⟩
    · cases isCall
    · cases isDone
      exact unbroken_orFail result

private theorem unbroken_removeAndWait (settings : Settings) (namespaceName : String) (labels : Labels) :
    (removeAndWait settings namespaceName labels).run.Unbroken PodCall.AnsweredBy := by
  refine unbroken_bind (unbroken_ask _) fun answer => ?_
  refine unbroken_bind (unbroken_orFail answer) fun pods => ?_
  exact unbroken_bind (unbroken_deleteAll namespaceName pods) fun _ =>
    unbroken_awaitRemoval settings namespaceName labels

end PodOperation

/-! ## Settings -/

namespace Settings

/-- The timeouts of the waits for a capability, for a pod that can be used, for the end of a pod and
for the end of its removal. -/
def timeouts (settings : Settings) : List Duration :=
  [settings.capabilityTimeout, settings.podReadinessTimeout, settings.podCompletionTimeout,
    settings.podShutdownTimeout]

theorem secondsOr_toDigits {default seconds : Nat} (fits : seconds < Text.countLimit) :
    secondsOr default (some (String.ofList (Nat.toDigits 10 seconds))) = .ofSeconds seconds := by
  have unblank : ∀ character ∈ Nat.toDigits 10 seconds, Text.isBlank character = false :=
    fun _ member => Text.isBlank_eq_false_of_isDigit
      (Nat.isDigit_of_mem_toDigits (by decide) (by decide) member)
  rw [secondsOr, String.toList_ofList, Text.trimChars_eq_self unblank,
    Text.readCount_toDigits fits, Option.getD_some]

theorem exists_secondsOr {default : Nat} (fits : default < Text.countLimit)
    (value? : Option String) :
    ∃ seconds < Text.countLimit, secondsOr default value? = .ofSeconds seconds := by
  cases value? with
  | none => exact ⟨default, fits, rfl⟩
  | some value =>
      cases read : Text.readCount (Text.trimChars value.toList) with
      | none => exact ⟨default, fits, by rw [secondsOr, read, Option.getD_none]⟩
      | some seconds =>
          exact ⟨seconds, (Text.readCount_eq_some_iff.mp read).2.2.2,
            by rw [secondsOr, read, Option.getD_some]⟩

/-- The variables give the four timeouts any whole numbers of seconds that fit into 64 bits, and
nothing else. -/
theorem exists_variables_iff {timeouts : List Duration} :
    (∃ setting?, (ofVariables setting?).timeouts = timeouts) ↔
      timeouts.length = 4 ∧
        ∀ timeout ∈ timeouts, ∃ seconds < Text.countLimit, timeout = .ofSeconds seconds := by
  constructor
  · rintro ⟨setting?, rfl⟩
    refine ⟨rfl, ?_⟩
    have ordinary : 600 < Text.countLimit := by decide
    have short : 120 < Text.countLimit := by decide
    simp only [timeouts, ofVariables, List.forall_mem_cons, List.not_mem_nil, false_implies,
      implies_true, and_true]
    exact ⟨exists_secondsOr ordinary _, exists_secondsOr ordinary _, exists_secondsOr ordinary _,
      exists_secondsOr short _⟩
  · rintro ⟨four, accepted⟩
    obtain ⟨capability, readiness, completion, shutdown, rfl⟩ := List.length_eq_four.mp four
    simp only [List.forall_mem_cons, List.not_mem_nil, false_implies, implies_true,
      and_true] at accepted
    obtain ⟨⟨first, firstFits, rfl⟩, ⟨second, secondFits, rfl⟩, ⟨third, thirdFits, rfl⟩,
      ⟨fourth, fourthFits, rfl⟩⟩ := accepted
    let digits (seconds : Nat) : Option String := some (String.ofList (Nat.toDigits 10 seconds))
    refine ⟨fun
      | "TRELLIS_CAPABILITY_TIMEOUT_SECONDS" => digits first
      | "TRELLIS_POD_READINESS_TIMEOUT_SECONDS" => digits second
      | "TRELLIS_POD_COMPLETION_TIMEOUT_SECONDS" => digits third
      | "TRELLIS_POD_SHUTDOWN_TIMEOUT_SECONDS" => digits fourth
      | _ => none, ?_⟩
    simp only [timeouts, ofVariables, digits, secondsOr_toDigits firstFits,
      secondsOr_toDigits secondFits, secondsOr_toDigits thirdFits, secondsOr_toDigits fourthFits]

end Settings

/-! ## Programs with configured timeouts -/

/-- The variables give every timeout that fits into 64 bits, and a wait is given up exactly if its
deadline lies beyond the clock.  With the timeouts that the variables give, the run of a pod, the wait
for one and provisioning break off exactly where they come to such a wait, the run of a pod after it
has created the pod.  The removal of pods never breaks off. -/
theorem configured_breaks_iff (setting? : String → Option String) :
    (∀ timeouts, (∃ variables?, (Settings.ofVariables variables?).timeouts = timeouts) ↔
      timeouts.length = 4 ∧
        ∀ timeout ∈ timeouts, ∃ seconds < Text.countLimit, timeout = .ofSeconds seconds) ∧
    (∀ {α : Type} (condition : α → Bool) locator timeout start outcome finish,
      Waits condition locator timeout start outcome finish →
        (outcome = .beyondClock ↔ Wait.clockReach ≤ (start + timeout).seconds)) ∧
    let settings := Settings.ofVariables setting?
    (∀ pod start exchanges message finish,
      (PodOperation.runToCompletion settings pod).run.Goes PodCall.AnsweredBy start exchanges
          (.abort message) finish ↔
        message = Wait.beyondClockMessage ∧ ∃ namespaceName created instant,
          pod.metadata.namespaceName = some namespaceName ∧
          exchanges = [⟨.create pod, .ok created⟩,
            ⟨.awaitGoal .finished (.named namespaceName pod.name) settings.podCompletionTimeout,
              .beyondClock⟩] ∧
          start ≤ instant ∧
          Wait.clockReach ≤ (instant + settings.podCompletionTimeout).seconds ∧
          instant ≤ finish) ∧
    (∀ namespaceName label value start exchanges message finish,
      (PodOperation.awaitLabeled settings namespaceName label value).run.Goes PodCall.AnsweredBy
          start exchanges (.abort message) finish ↔
        message = Wait.beyondClockMessage ∧
          exchanges = [⟨.awaitGoal .available
            (.labeled namespaceName (StringMap.empty.insert label value))
            settings.podReadinessTimeout, .beyondClock⟩] ∧
          Wait.clockReach ≤ (start + settings.podReadinessTimeout).seconds ∧ start ≤ finish) ∧
    (∀ namespaceName labels start exchanges message finish,
      ¬ (PodOperation.removeAndWait settings namespaceName labels).run.Goes PodCall.AnsweredBy
        start exchanges (.abort message) finish) ∧
    ∀ operatorNamespace serial requester requirement start exchanges message finish,
      let program := Provision.provide operatorNamespace serial requester requirement
        settings.capabilityTimeout
      program.Goes CapabilityCall.AnsweredBy start exchanges (.abort message) finish ↔
        message = Wait.beyondClockMessage ∧ ∃ front namespaceName name next instant,
          exchanges = front ++
            [⟨.awaitSettled namespaceName name settings.capabilityTimeout, .beyondClock⟩] ∧
          program.Goes CapabilityCall.AnsweredBy start front
            (.call (.awaitSettled namespaceName name settings.capabilityTimeout) next) instant ∧
          Wait.clockReach ≤ (instant + settings.capabilityTimeout).seconds ∧
          instant ≤ finish := by
  refine ⟨fun _ => Settings.exists_variables_iff, fun _ _ _ _ _ _ => Waits.eq_beyondClock_iff, ?_⟩
  intro settings
  refine ⟨?_, ?_, ?_, ?_⟩
  · intro pod start exchanges message finish
    exact PodOperation.runToCompletion_breaks_iff
  · intro namespaceName label value start exchanges message finish
    exact PodOperation.awaitGoal_breaks_iff
  · intro namespaceName labels
    exact PodOperation.unbroken_removeAndWait settings namespaceName labels
  · intro operatorNamespace serial requester requirement start exchanges message finish
    exact Provision.provide_breaks_iff

end Provisioning
