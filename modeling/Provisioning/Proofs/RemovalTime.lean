import Provisioning.Proofs.Deadlines
import Provisioning.Proofs.Runs

/-!
# How long the removal of pods takes

The poll for the end of pods looks at the clock after every listing and at no other time: a listing
that is under way is waited for, however long it takes.  So the timeout bounds the instant at which the
last listing is begun, and not the one at which the removal ends.

Main statement: when a removal ends, when it ends in time, and with what, whatever the times that the
calls of the store take (`removal_ends_iff`).
-/

namespace Provisioning

/-! ## The calls that a program comes to -/

namespace Program

variable {Call : Type} {Answer : Call → Type} {σ α β : Type}
  {answers : σ → (request : Call) → Answer request → σ → Prop} {start middle finish : σ}
  {request : Call}

/-- A program that is started in one state comes to a call in another. -/
def ComesTo (answers : σ → (request : Call) → Answer request → σ → Prop)
    (program : Program Call Answer α) (start : σ) (request : Call) (middle : σ) : Prop :=
  ∃ exchanges next, program.Goes answers start exchanges (.call request next) middle

@[simp]
theorem not_comesTo_done (value : α) :
    ¬ (done value : Program Call Answer α).ComesTo answers start request middle := by
  rintro ⟨exchanges, next, goes⟩
  cases (goes_done_iff.mp goes).2.1

@[simp]
theorem not_comesTo_abort (message : String) :
    ¬ (abort message : Program Call Answer α).ComesTo answers start request middle := by
  rintro ⟨exchanges, next, goes⟩
  cases (goes_abort_iff.mp goes).2.1

@[simp]
theorem comesTo_call_iff {first : Call} {next : Answer first → Program Call Answer α} :
    (call first next).ComesTo answers start request middle ↔
      (request = first ∧ middle = start) ∨
        ∃ answer after, answers start first answer after ∧
          (next answer).ComesTo answers after request middle := by
  constructor
  · rintro ⟨exchanges, last, goes⟩
    rcases goes_call_iff.mp goes with ⟨_, isLast, isStart⟩ | ⟨answer, after, rest, _, given, goesOn⟩
    · cases isLast
      exact .inl ⟨rfl, isStart⟩
    · exact .inr ⟨answer, after, given, rest, last, goesOn⟩
  · rintro (⟨rfl, rfl⟩ | ⟨answer, after, given, rest, last, goesOn⟩)
    · exact ⟨[], next, .still _ _⟩
    · exact ⟨_, last, .call given goesOn⟩

/-- Of two programs in a row, the second one comes to calls only where the first has ended. -/
theorem comesTo_bind_iff {program : Program Call Answer α} {next : α → Program Call Answer β}
    (noCalls : ∀ value start, ¬ (next value).ComesTo answers start request middle) :
    (program.bind next).ComesTo answers start request middle ↔
      program.ComesTo answers start request middle := by
  constructor
  · rintro ⟨exchanges, last, goes⟩
    rcases goes_bind_iff.mp goes with
      ⟨left, reached, isLeft⟩ | ⟨value, between, front, back, _, _, second⟩
    · cases left with
      | done value => exact absurd ⟨[], last, isLeft ▸ .still _ _⟩ (noCalls value middle)
      | abort message => cases isLeft
      | call first following =>
          cases isLeft
          exact ⟨exchanges, following, reached⟩
    · exact absurd ⟨back, last, second⟩ (noCalls value between)
  · rintro ⟨exchanges, last, goes⟩
    exact ⟨exchanges, _, goes.bind⟩

/-- Where every call has one answer, a program ends as what is left of it does. -/
theorem Goes.endsWith_iff {program left : Program Call Answer α}
    {exchanges : List (Exchange Call Answer)} {value : α}
    (goes : program.Goes answers start exchanges left middle)
    (decided : ∀ {state request answer after other later}, answers state request answer after →
      answers state request other later → other = answer ∧ later = after) :
    program.EndsWith answers start value finish ↔ left.EndsWith answers middle value finish := by
  induction goes with
  | still => exact Iff.rfl
  | call given _ inductionHypothesis =>
      rw [← inductionHypothesis, endsWith_call_iff]
      constructor
      · rintro ⟨other, later, otherGiven, ends⟩
        obtain ⟨rfl, rfl⟩ := decided given otherGiven
        exact ends
      · exact fun ends => ⟨_, _, given, ends⟩

end Program

/-! ## Stores that take their time -/

/-- A pod store as a removal meets it: what every listing and every deletion is answered, and after
which time, if it ever is. -/
structure PodScript where
  lists : Nat → Option (Duration × Except Failure (List Pod))
  deletions : Nat → Option (Duration × Except Failure Unit)

namespace PodScript

/-- How far a removal has come: the instant, and how many calls have been answered. -/
structure Stage where
  clock : Duration
  lists : Nat
  deletions : Nat

namespace Stage

/-- The stage when some time has gone by. -/
def after (stage : Stage) (span : Duration) : Stage :=
  { stage with clock := stage.clock + span }

/-- The stage after a listing that took some time. -/
def listed (stage : Stage) (took : Duration) : Stage :=
  { stage.after took with lists := stage.lists + 1 }

/-- The stage after a deletion that took some time. -/
def deleted (stage : Stage) (took : Duration) : Stage :=
  { stage.after took with deletions := stage.deletions + 1 }

end Stage

/-- How the calls of a removal are answered: as the script has it, while a clock goes on with them and
with every sleep. -/
def Answers (script : PodScript) (stage : Stage) :
    (request : PodCall) → request.Answer → Stage → Prop
  | .list .., answer, next => ∃ took, script.lists stage.lists = some (took, answer) ∧
      next = stage.listed took
  | .delete .., answer, next => ∃ took, script.deletions stage.deletions = some (took, answer) ∧
      next = stage.deleted took
  | .now, instant, next => instant = stage.clock ∧ next = stage
  | .sleep span, _, next => next = stage.after span
  | .create _, _, _ => False
  | .awaitGoal .., _, _ => False

variable {script : PodScript} {stage : Stage}

theorem decided {request : PodCall} {answer other : request.Answer} {next later : Stage}
    (given : script.Answers stage request answer next)
    (otherGiven : script.Answers stage request other later) : other = answer ∧ later = next := by
  cases request with
  | list namespaceName labels =>
      obtain ⟨took, isListed, rfl⟩ := given
      obtain ⟨otherTook, otherListed, rfl⟩ := otherGiven
      cases isListed.symm.trans otherListed
      exact ⟨rfl, rfl⟩
  | delete namespaceName name =>
      obtain ⟨took, isDeleted, rfl⟩ := given
      obtain ⟨otherTook, otherDeleted, rfl⟩ := otherGiven
      cases isDeleted.symm.trans otherDeleted
      exact ⟨rfl, rfl⟩
  | now =>
      obtain ⟨rfl, rfl⟩ := given
      obtain ⟨rfl, rfl⟩ := otherGiven
      exact ⟨rfl, rfl⟩
  | sleep span =>
      cases given
      cases otherGiven
      exact ⟨rfl, rfl⟩
  | create pod => exact given.elim
  | awaitGoal goal locator timeout => exact given.elim

private theorem clock_le_of_answers {request : PodCall} {answer : request.Answer} {next : Stage}
    (given : script.Answers stage request answer next) :
    stage.clock.nanoseconds ≤ next.clock.nanoseconds := by
  cases request with
  | list namespaceName labels =>
      obtain ⟨took, _, rfl⟩ := given
      exact Nat.le_add_right _ _
  | delete namespaceName name =>
      obtain ⟨took, _, rfl⟩ := given
      exact Nat.le_add_right _ _
  | now =>
      obtain ⟨_, rfl⟩ := given
      exact Nat.le_refl _
  | sleep span =>
      cases given
      exact Nat.le_add_right _ _
  | create pod => exact given.elim
  | awaitGoal goal locator timeout => exact given.elim

private theorem clock_le_of_endsWith {α : Type} {program : PodProgram α} {value : α} {finish : Stage}
    (ends : program.EndsWith script.Answers stage value finish) :
    stage.clock.nanoseconds ≤ finish.clock.nanoseconds := by
  induction ends with
  | done value state => exact Nat.le_refl _
  | call given _ inductionHypothesis =>
      exact Nat.le_trans (clock_le_of_answers given) inductionHypothesis

end PodScript

namespace PodOperation

open PodScript (Stage)

variable {settings : Settings} {namespaceName : String} {labels : Labels} {poll : Poll}
  {script : PodScript} {start : Duration} {checks : Nat} {stage later finish : Stage}
  {result : Except Failure Unit}

/-! ## One check of the poll -/

private theorem comesTo_repeatRemoval_iff :
    (repeatRemoval namespaceName labels poll start (checks + 1)).ComesTo script.Answers stage
        (.list namespaceName labels) later ↔
      later = stage ∨ ∃ took answer, script.lists stage.lists = some (took, answer) ∧
        poll.afterCheck ((stage.listed took).clock - start) (answer.map (·.isEmpty)) = none ∧
        (repeatRemoval namespaceName labels poll start checks).ComesTo script.Answers
          ((stage.listed took).after poll.interval) (.list namespaceName labels) later := by
  rw [repeatRemoval_succ, Program.comesTo_call_iff]
  constructor
  · rintro (⟨_, isStage⟩ | ⟨answer, _, ⟨took, isListed, rfl⟩, comes⟩)
    · exact .inl isStage
    rcases Program.comesTo_call_iff.mp comes with ⟨isNow, _⟩ | ⟨_, _, ⟨rfl, rfl⟩, comes⟩
    · cases isNow
    cases checked : poll.afterCheck ((stage.listed took).clock - start)
        (answer.map (·.isEmpty)) with
    | some result =>
        simp only [checked] at comes
        exact absurd comes (Program.not_comesTo_done _)
    | none =>
        simp only [checked] at comes
        rcases Program.comesTo_call_iff.mp comes with ⟨isSleep, _⟩ | ⟨_, _, rfl, comes⟩
        · cases isSleep
        · exact .inr ⟨took, answer, isListed, checked, comes⟩
  · rintro (isStage | ⟨took, answer, isListed, checked, comes⟩)
    · exact .inl ⟨rfl, isStage⟩
    · refine .inr ⟨answer, _, ⟨took, isListed, rfl⟩, ?_⟩
      refine Program.comesTo_call_iff.mpr (.inr ⟨_, _, ⟨rfl, rfl⟩, ?_⟩)
      simp only [checked]
      exact Program.comesTo_call_iff.mpr (.inr ⟨(), _, rfl, comes⟩)

private theorem endsWith_repeatRemoval_iff {result? : Option (Except Failure Unit)} :
    (repeatRemoval namespaceName labels poll start (checks + 1)).EndsWith script.Answers stage
        result? finish ↔
      ∃ took answer, script.lists stage.lists = some (took, answer) ∧
        match poll.afterCheck ((stage.listed took).clock - start) (answer.map (·.isEmpty)) with
        | some result => result? = some result ∧ finish = stage.listed took
        | none => (repeatRemoval namespaceName labels poll start checks).EndsWith script.Answers
            ((stage.listed took).after poll.interval) result? finish := by
  rw [repeatRemoval_succ, Program.endsWith_call_iff]
  constructor
  · rintro ⟨answer, _, ⟨took, isListed, rfl⟩, ends⟩
    obtain ⟨_, _, ⟨rfl, rfl⟩, ends⟩ := Program.endsWith_call_iff.mp ends
    refine ⟨took, answer, isListed, ?_⟩
    cases checked : poll.afterCheck ((stage.listed took).clock - start)
        (answer.map (·.isEmpty)) with
    | some result =>
        simp only [checked] at ends
        exact Program.endsWith_done_iff.mp ends
    | none =>
        simp only [checked] at ends
        obtain ⟨_, _, rfl, ends⟩ := Program.endsWith_call_iff.mp ends
        exact ends
  · rintro ⟨took, answer, isListed, ends⟩
    refine ⟨answer, _, ⟨took, isListed, rfl⟩, ?_⟩
    refine Program.endsWith_call_iff.mpr ⟨_, _, ⟨rfl, rfl⟩, ?_⟩
    cases checked : poll.afterCheck ((stage.listed took).clock - start)
        (answer.map (·.isEmpty)) with
    | some result =>
        simp only [checked] at ends ⊢
        exact Program.endsWith_done_iff.mpr ends
    | none =>
        simp only [checked] at ends ⊢
        exact Program.endsWith_call_iff.mpr ⟨(), _, rfl, ends⟩

/-! ## All checks of the poll -/

/-- Every listing is begun within the timeout and one interval. -/
theorem clock_lt_of_comesTo_repeatRemoval
    (early : stage.clock.nanoseconds <
      start.nanoseconds + poll.timeout.nanoseconds + poll.interval.nanoseconds)
    (comes : (repeatRemoval namespaceName labels poll start checks).ComesTo script.Answers stage
      (.list namespaceName labels) later) :
    later.clock.nanoseconds <
      start.nanoseconds + poll.timeout.nanoseconds + poll.interval.nanoseconds := by
  induction checks generalizing stage with
  | zero => exact absurd comes (Program.not_comesTo_done _)
  | succ checks inductionHypothesis =>
      rcases comesTo_repeatRemoval_iff.mp comes with
        rfl | ⟨took, answer, _, checked, comesLater⟩
      · exact early
      · refine inductionHypothesis ?_ comesLater
        have goesOn : (stage.listed took).clock.nanoseconds - start.nanoseconds <
            poll.timeout.nanoseconds := lt_timeout_of_afterCheck checked
        show (stage.listed took).clock.nanoseconds + poll.interval.nanoseconds < _
        omega

/-- A poll that has ended was decided by its last listing, when that was answered. -/
theorem exists_last_of_endsWith_repeatRemoval
    (ends : (repeatRemoval namespaceName labels poll start checks).EndsWith script.Answers stage
      (some result) finish) :
    ∃ later took answer,
      (repeatRemoval namespaceName labels poll start checks).ComesTo script.Answers stage
        (.list namespaceName labels) later ∧
      script.lists later.lists = some (took, answer) ∧ finish = later.listed took ∧
      poll.afterCheck (finish.clock - start) (answer.map (·.isEmpty)) = some result := by
  induction checks generalizing stage with
  | zero => cases (Program.endsWith_done_iff.mp ends).1
  | succ checks inductionHypothesis =>
      obtain ⟨took, answer, isListed, ends⟩ := endsWith_repeatRemoval_iff.mp ends
      cases checked : poll.afterCheck ((stage.listed took).clock - start)
          (answer.map (·.isEmpty)) with
      | some decision =>
          simp only [checked] at ends
          obtain ⟨isResult, rfl⟩ := ends
          cases isResult
          exact ⟨stage, took, answer, comesTo_repeatRemoval_iff.mpr (.inl rfl), isListed, rfl,
            checked⟩
      | none =>
          simp only [checked] at ends
          obtain ⟨later, lastTook, lastAnswer, comes, isLast⟩ := inductionHypothesis ends
          exact ⟨later, lastTook, lastAnswer,
            comesTo_repeatRemoval_iff.mpr (.inr ⟨took, answer, isListed, checked, comes⟩), isLast⟩

/-- A poll that has ended waited for every listing that it came to. -/
theorem answered_of_endsWith_repeatRemoval
    (ends : (repeatRemoval namespaceName labels poll start checks).EndsWith script.Answers stage
      (some result) finish)
    (comes : (repeatRemoval namespaceName labels poll start checks).ComesTo script.Answers stage
      (.list namespaceName labels) later) :
    ∃ took answer, script.lists later.lists = some (took, answer) ∧
      (later.listed took).clock ≤ finish.clock := by
  induction checks generalizing stage with
  | zero => exact absurd comes (Program.not_comesTo_done _)
  | succ checks inductionHypothesis =>
      obtain ⟨took, answer, isListed, ends⟩ := endsWith_repeatRemoval_iff.mp ends
      rcases comesTo_repeatRemoval_iff.mp comes with
        rfl | ⟨otherTook, otherAnswer, otherListed, checked, comesLater⟩
      · refine ⟨took, answer, isListed, ?_⟩
        cases checked : poll.afterCheck ((later.listed took).clock - start)
            (answer.map (·.isEmpty)) with
        | some decision =>
            simp only [checked] at ends
            obtain ⟨_, rfl⟩ := ends
            exact Nat.le_refl _
        | none =>
            simp only [checked] at ends
            have isOver := PodScript.clock_le_of_endsWith ends
            exact Nat.le_trans (Nat.le_add_right _ _) isOver
      · cases isListed.symm.trans otherListed
        simp only [checked] at ends
        exact inductionHypothesis ends comesLater

/-- A listing that is answered ends the poll, or the poll goes on. -/
theorem ends_or_goesOn_of_answered (answered : script.lists stage.lists ≠ none) :
    (∃ result finish, (repeatRemoval namespaceName labels poll start (checks + 1)).EndsWith
        script.Answers stage (some result) finish) ∨
      ∃ took answer, script.lists stage.lists = some (took, answer) ∧
        poll.afterCheck ((stage.listed took).clock - start) (answer.map (·.isEmpty)) = none := by
  obtain ⟨⟨took, answer⟩, isListed⟩ := Option.ne_none_iff_exists'.mp answered
  cases checked : poll.afterCheck ((stage.listed took).clock - start)
      (answer.map (·.isEmpty)) with
  | some result =>
      refine .inl ⟨result, stage.listed took,
        endsWith_repeatRemoval_iff.mpr ⟨took, answer, isListed, ?_⟩⟩
      simp only [checked, and_self]
  | none => exact .inr ⟨took, answer, isListed, checked⟩

/-- While enough checks are left for the time that is left, a poll ends if every listing that it
comes to is answered. -/
theorem exists_endsWith_repeatRemoval
    (begun : start.nanoseconds ≤ stage.clock.nanoseconds)
    (enough : poll.timeout.nanoseconds <
      stage.clock.nanoseconds - start.nanoseconds + checks * poll.interval.nanoseconds)
    (answered : ∀ later, (repeatRemoval namespaceName labels poll start (checks + 1)).ComesTo
      script.Answers stage (.list namespaceName labels) later → script.lists later.lists ≠ none) :
    ∃ result finish, (repeatRemoval namespaceName labels poll start (checks + 1)).EndsWith
      script.Answers stage (some result) finish := by
  -- Every check that goes on takes an interval off the time that is left, as it is one check less; the
  -- last one comes after the timeout, so it cannot go on.
  induction checks generalizing stage with
  | zero =>
      rcases ends_or_goesOn_of_answered (answered stage (comesTo_repeatRemoval_iff.mpr (.inl rfl)))
        with ended | ⟨took, answer, _, checked⟩
      · exact ended
      · have goesOn : stage.clock.nanoseconds + took.nanoseconds - start.nanoseconds <
            poll.timeout.nanoseconds := lt_timeout_of_afterCheck checked
        omega
  | succ checks inductionHypothesis =>
      rcases ends_or_goesOn_of_answered (answered stage (comesTo_repeatRemoval_iff.mpr (.inl rfl)))
        with ended | ⟨took, answer, isListed, checked⟩
      · exact ended
      · have woken : ((stage.listed took).after poll.interval).clock.nanoseconds =
            stage.clock.nanoseconds + took.nanoseconds + poll.interval.nanoseconds := rfl
        have fewer : (checks + 1) * poll.interval.nanoseconds =
            checks * poll.interval.nanoseconds + poll.interval.nanoseconds := Nat.succ_mul _ _
        have answeredLater : ∀ later,
            (repeatRemoval namespaceName labels poll start (checks + 1)).ComesTo script.Answers
              ((stage.listed took).after poll.interval) (.list namespaceName labels) later →
              script.lists later.lists ≠ none := fun later comes =>
          answered later (comesTo_repeatRemoval_iff.mpr
            (.inr ⟨took, answer, isListed, checked, comes⟩))
        obtain ⟨result, finish, ends⟩ :=
          inductionHypothesis (by omega) (by omega) answeredLater
        refine ⟨result, finish, endsWith_repeatRemoval_iff.mpr ⟨took, answer, isListed, ?_⟩⟩
        simp only [checked]
        exact ends

/-! ## The removal -/

/-- While a removal waits for the end of the pods, it comes to a listing of those that are left. -/
def Looks (settings : Settings) (namespaceName : String) (labels : Labels) (script : PodScript)
    (stage later : Stage) : Prop :=
  (awaitRemoval settings namespaceName labels).run.ComesTo script.Answers stage
    (.list namespaceName labels) later

/-- The instant that lies the timeout and one interval after the beginning of the wait. -/
def removalLimit (settings : Settings) (start : Duration) : Duration :=
  start + settings.podShutdownTimeout + removalInterval

private theorem looks_iff :
    Looks settings namespaceName labels script stage later ↔
      (repeatRemoval namespaceName labels (removalPoll settings namespaceName labels) stage.clock
        (removalPoll settings namespaceName labels).checkBound).ComesTo script.Answers stage
          (.list namespaceName labels) later := by
  have noCalls : ∀ (result? : Option (Except Failure Unit)) (middle : Stage),
      ¬ Program.ComesTo script.Answers
        (match result? with
          | some result => (orFail result : Attempt Unit).run
          | none => .abort "the clock stands still")
        middle (.list namespaceName labels) later := by
    intro result? middle
    cases result? <;> simp
  rw [Looks, run_awaitRemoval, Program.comesTo_call_iff]
  constructor
  · rintro (⟨isNow, _⟩ | ⟨_, _, ⟨rfl, rfl⟩, comes⟩)
    · cases isNow
    · exact (Program.comesTo_bind_iff noCalls).mp comes
  · exact fun comes =>
      .inr ⟨stage.clock, stage, ⟨rfl, rfl⟩, (Program.comesTo_bind_iff noCalls).mpr comes⟩

private theorem endsWith_awaitRemoval_iff {ended : Except PodError Unit} :
    (awaitRemoval settings namespaceName labels).run.EndsWith script.Answers stage ended finish ↔
      ∃ result, ended = result.mapError .failed ∧
        (repeatRemoval namespaceName labels (removalPoll settings namespaceName labels) stage.clock
          (removalPoll settings namespaceName labels).checkBound).EndsWith script.Answers stage
            (some result) finish := by
  rw [run_awaitRemoval, Program.endsWith_call_iff]
  constructor
  · rintro ⟨_, _, ⟨rfl, rfl⟩, ends⟩
    obtain ⟨result?, middle, polled, ends⟩ := Program.endsWith_bind_iff.mp ends
    cases result? with
    | none => cases ends
    | some result =>
        dsimp only at ends
        rw [run_orFail] at ends
        obtain ⟨isEnded, rfl⟩ := Program.endsWith_done_iff.mp ends
        exact ⟨result, isEnded, polled⟩
  · rintro ⟨result, isEnded, polled⟩
    refine ⟨stage.clock, stage, ⟨rfl, rfl⟩, Program.endsWith_bind_iff.mpr
      ⟨some result, finish, polled, ?_⟩⟩
    dsimp only
    rw [run_orFail]
    exact Program.endsWith_done_iff.mpr ⟨isEnded, rfl⟩

@[simp]
theorem isEmpty_eq_ok_true_iff {answer : Except Failure (List Pod)} :
    answer.map (·.isEmpty) = .ok true ↔ answer = .ok [] := by
  rcases answer with failure | _ | ⟨pod, pods⟩ <;> simp [Except.map]

theorem afterCheck_eq_some_iff {elapsed : Duration} {answer : Except Failure (List Pod)} :
    poll.afterCheck elapsed (answer.map (·.isEmpty)) = some result ↔
      (answer = .ok [] ∧ result = .ok ()) ∨
        answer ≠ .ok [] ∧ poll.timeout ≤ elapsed ∧
          result = .error (.timeout poll.message elapsed) := by
  simp [Poll.afterCheck_eq_some_iff]

private theorem clock_lt_of_looks (looks : Looks settings namespaceName labels script stage later) :
    later.clock < removalLimit settings stage.clock := by
  have positive : 0 < removalInterval.nanoseconds := by decide
  refine clock_lt_of_comesTo_repeatRemoval ?_ (looks_iff.mp looks)
  show stage.clock.nanoseconds < stage.clock.nanoseconds +
    settings.podShutdownTimeout.nanoseconds + removalInterval.nanoseconds
  omega

private theorem exists_last_of_endsWith_awaitRemoval {ended : Except PodError Unit}
    (ends : (awaitRemoval settings namespaceName labels).run.EndsWith script.Answers stage ended
      finish) :
    ∃ later took answer, Looks settings namespaceName labels script stage later ∧
      script.lists later.lists = some (took, answer) ∧ finish = later.listed took ∧
      ((answer = .ok [] ∧ ended = .ok ()) ∨
        answer ≠ .ok [] ∧ settings.podShutdownTimeout ≤ finish.clock - stage.clock ∧
          ended = .error (.failed (.timeout (removalPoll settings namespaceName labels).message
            (finish.clock - stage.clock)))) := by
  obtain ⟨result, rfl, polled⟩ := endsWith_awaitRemoval_iff.mp ends
  obtain ⟨later, took, answer, comes, isListed, isFinish, checked⟩ :=
    exists_last_of_endsWith_repeatRemoval polled
  refine ⟨later, took, answer, looks_iff.mpr comes, isListed, isFinish, ?_⟩
  rcases afterCheck_eq_some_iff.mp checked with ⟨isEmpty, rfl⟩ | ⟨notEmpty, isOver, rfl⟩
  · exact .inl ⟨isEmpty, rfl⟩
  · exact .inr ⟨notEmpty, isOver, rfl⟩

private theorem answered_of_endsWith_awaitRemoval {ended : Except PodError Unit}
    (ends : (awaitRemoval settings namespaceName labels).run.EndsWith script.Answers stage ended
      finish)
    (looks : Looks settings namespaceName labels script stage later) :
    ∃ took answer, script.lists later.lists = some (took, answer) ∧
      (later.listed took).clock ≤ finish.clock := by
  obtain ⟨_, _, polled⟩ := endsWith_awaitRemoval_iff.mp ends
  exact answered_of_endsWith_repeatRemoval polled (looks_iff.mp looks)

private theorem exists_endsWith_awaitRemoval
    (answered : ∀ later, Looks settings namespaceName labels script stage later →
      script.lists later.lists ≠ none) :
    ∃ ended finish, (awaitRemoval settings namespaceName labels).run.EndsWith script.Answers stage
      ended finish := by
  have positive : 0 < (removalPoll settings namespaceName labels).interval.nanoseconds :=
    show 0 < removalInterval.nanoseconds by decide
  have enough := Nat.lt_div_mul_add positive
    (a := (removalPoll settings namespaceName labels).timeout.nanoseconds)
  rw [← Nat.succ_mul] at enough
  obtain ⟨result, finish, polled⟩ := exists_endsWith_repeatRemoval (Nat.le_refl _)
    (Nat.lt_of_lt_of_le enough (Nat.le_add_left _ _))
    fun later comes => answered later (looks_iff.mpr comes)
  exact ⟨_, finish, endsWith_awaitRemoval_iff.mpr ⟨result, rfl, polled⟩⟩

/-! ## A store that stalls -/

/-- A store that lists the given pods once, deletes whatever it is told to, and answers no second
listing. -/
def stalledAfter (pods : List Pod) : PodScript where
  lists
    | 0 => some (⟨0⟩, .ok pods)
    | _ + 1 => none
  deletions _ := some (⟨0⟩, .ok ())

/-- As long as deletions succeed at once, one pod after the other is deleted. -/
theorem goes_deleteAll_atOnce (namespaceName : String) (script : PodScript) (stage : Stage)
    (front back : List Pod) (next : Attempt Unit)
    (succeeds : ∀ earlier < front.length,
      script.deletions (stage.deletions + earlier) = some (⟨0⟩, .ok ())) :
    (deleteAll namespaceName (front ++ back) >>= fun _ => next).run.Goes script.Answers stage
      (deletions namespaceName front)
      (deleteAll namespaceName back >>= fun _ => next).run
      { stage with deletions := stage.deletions + front.length } :=
  goes_deleteAll_append namespaceName front back next
    (fun earlier => { stage with deletions := stage.deletions + earlier })
    fun earlier inFront => ⟨⟨0⟩, succeeds earlier inFront, rfl⟩

/-- Whatever its timeout, a removal that has deleted all pods need not end. -/
theorem exists_endless_removal (settings : Settings) (namespaceName : String) (labels : Labels)
    (pods : List Pod) (clock : Duration) :
    (∃ exchanges stage,
      (removeAndWait settings namespaceName labels).run.Goes (stalledAfter pods).Answers ⟨clock, 0, 0⟩
        exchanges (awaitRemoval settings namespaceName labels).run stage) ∧
      ∀ ended finish, ¬ (removeAndWait settings namespaceName labels).run.EndsWith
        (stalledAfter pods).Answers ⟨clock, 0, 0⟩ ended finish := by
  let begun : Stage := ⟨clock, 0, 0⟩
  have deletes := goes_deleteAll_atOnce namespaceName (stalledAfter pods) (begun.listed ⟨0⟩) pods []
    (awaitRemoval settings namespaceName labels) fun _ _ => rfl
  rw [List.append_nil] at deletes
  let stage : Stage := { begun.listed ⟨0⟩ with deletions := 0 + pods.length }
  have deleted : (removeAndWait settings namespaceName labels).run.Goes (stalledAfter pods).Answers
      begun (⟨.list namespaceName labels, .ok pods⟩ :: deletions namespaceName pods)
      (awaitRemoval settings namespaceName labels).run stage := .call ⟨⟨0⟩, rfl, rfl⟩ deletes
  refine ⟨⟨_, stage, deleted⟩, fun ended finish ends => ?_⟩
  have waits := (deleted.endsWith_iff PodScript.decided).mp ends
  have looks : Looks settings namespaceName labels (stalledAfter pods) stage stage :=
    looks_iff.mpr (comesTo_repeatRemoval_iff.mpr (.inl rfl))
  obtain ⟨took, answer, isListed, _⟩ := answered_of_endsWith_awaitRemoval waits looks
  cases isListed

/-! ## When a removal ends -/

/-- A removal whose deletions are done lists the pods that are left until none is, and begins no listing
after the timeout and one interval.  It waits for each of these listings: it ends if all of them are
answered, and by that instant if all of them are answered by then.  What it ends with is told by the
last one: no pod is left, or the timeout is over. -/
theorem removal_ends_iff {begin : Stage}
    {exchanges : List (Program.Exchange PodCall PodCall.Answer)}
    (deleted : (removeAndWait settings namespaceName labels).run.Goes script.Answers begin exchanges
      (awaitRemoval settings namespaceName labels).run stage) :
    (∀ later, Looks settings namespaceName labels script stage later →
      later.clock < removalLimit settings stage.clock) ∧
    (∀ ended finish,
      (removeAndWait settings namespaceName labels).run.EndsWith script.Answers begin ended finish →
        ∃ later took answer, Looks settings namespaceName labels script stage later ∧
          script.lists later.lists = some (took, answer) ∧ finish = later.listed took ∧
          ((answer = .ok [] ∧ ended = .ok ()) ∨
            answer ≠ .ok [] ∧ settings.podShutdownTimeout ≤ finish.clock - stage.clock ∧
              ended = .error (.failed (.timeout (removalPoll settings namespaceName labels).message
                (finish.clock - stage.clock))))) ∧
    ((∃ ended finish,
      (removeAndWait settings namespaceName labels).run.EndsWith script.Answers begin ended
        finish) ↔
      ∀ later, Looks settings namespaceName labels script stage later →
        script.lists later.lists ≠ none) ∧
    ((∃ ended finish,
      (removeAndWait settings namespaceName labels).run.EndsWith script.Answers begin ended finish ∧
        finish.clock ≤ removalLimit settings stage.clock) ↔
      ∀ later, Looks settings namespaceName labels script stage later →
        ∃ took answer, script.lists later.lists = some (took, answer) ∧
          (later.listed took).clock ≤ removalLimit settings stage.clock) := by
  have asLeft : ∀ ended finish,
      (removeAndWait settings namespaceName labels).run.EndsWith script.Answers begin ended finish ↔
        (awaitRemoval settings namespaceName labels).run.EndsWith script.Answers stage ended
          finish := fun ended finish => deleted.endsWith_iff PodScript.decided
  simp only [asLeft]
  refine ⟨fun later looks => clock_lt_of_looks looks,
    fun ended finish ends => exists_last_of_endsWith_awaitRemoval ends, ⟨?_, ?_⟩, ⟨?_, ?_⟩⟩
  · rintro ⟨ended, finish, ends⟩ later looks
    obtain ⟨took, answer, isListed, _⟩ := answered_of_endsWith_awaitRemoval ends looks
    rw [isListed]
    exact Option.some_ne_none _
  · exact exists_endsWith_awaitRemoval
  · rintro ⟨ended, finish, ends, inTime⟩ later looks
    obtain ⟨took, answer, isListed, isOver⟩ := answered_of_endsWith_awaitRemoval ends looks
    exact ⟨took, answer, isListed, Nat.le_trans isOver inTime⟩
  · intro answered
    have everAnswered : ∀ later, Looks settings namespaceName labels script stage later →
        script.lists later.lists ≠ none := by
      intro later looks
      obtain ⟨took, answer, isListed, _⟩ := answered later looks
      rw [isListed]
      exact Option.some_ne_none _
    obtain ⟨ended, finish, ends⟩ := exists_endsWith_awaitRemoval everAnswered
    obtain ⟨later, took, answer, looks, isListed, rfl, _⟩ :=
      exists_last_of_endsWith_awaitRemoval ends
    obtain ⟨_, _, sameListed, inTime⟩ := answered later looks
    cases isListed.symm.trans sameListed
    exact ⟨ended, later.listed took, ends, inTime⟩

/-- The settings that hold where none is given: pods have two minutes to go. -/
def ordinarySettings : Settings := .ofVariables fun _ => none

/-- A job that has a name and a namespace. -/
def migrationJob : Pod where
  metadata := { name := some "migrate", namespaceName := some "retail" }

/-- The removal of a job does not end where the first listing after its deletion stalls. -/
theorem removal_ends_iff_of_migrationJob :
    ¬ ∃ ended finish, (removeAndWait ordinarySettings "retail" .empty).run.EndsWith
      (stalledAfter [migrationJob]).Answers ⟨⟨0⟩, 0, 0⟩ ended finish := by
  let begun : Stage := ⟨⟨0⟩, 0, 0⟩
  have deleted : (removeAndWait ordinarySettings "retail" .empty).run.Goes
      (stalledAfter [migrationJob]).Answers begun
      [⟨.list "retail" .empty, .ok [migrationJob]⟩, ⟨.delete "retail" "migrate", .ok ()⟩]
      (awaitRemoval ordinarySettings "retail" .empty).run ((begun.listed ⟨0⟩).deleted ⟨0⟩) :=
    .call ⟨⟨0⟩, rfl, rfl⟩ (.call ⟨⟨0⟩, rfl, rfl⟩ (.still _ _))
  obtain ⟨_, _, endsIff, _⟩ := removal_ends_iff deleted
  intro ends
  have stalled := endsIff.mp ends _ (looks_iff.mpr (comesTo_repeatRemoval_iff.mpr (.inl rfl)))
  exact stalled rfl

end PodOperation

end Provisioning
