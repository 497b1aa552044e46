import Mathlib.Data.Nat.Find
import Provisioning.Poll.Timed

/-!
# Polls on a clock

Whatever its checks answer and however long they take, when each of them begins and when it is
answered can be told beforehand.  A poll runs up to the first check that says yes or is answered
when the time is up; since every check but the first comes an interval after the one before, there
is such a check if the interval is positive.

Main statement: which checks a poll runs, when, and what it ends with (`runTimed_ends`).
-/

namespace Provisioning

namespace Poll

variable (poll : Poll) (checks : Nat → TimedCheck)

/-! ## The instants of the checks -/

/-- When the check with the given number begins, if the poll comes to it. -/
def beginning : Nat → Duration
  | 0 => ⟨0⟩
  | check + 1 => beginning check + (checks check).duration + poll.interval

/-- When the check with the given number is answered, if the poll comes to it. -/
def answered (check : Nat) : Duration :=
  poll.beginning checks check + (checks check).duration

/-- Whether the poll ends with the check with the given number, if it comes to it. -/
def EndsAt (check : Nat) : Prop :=
  (checks check).answer = .ok true ∨ poll.timeout ≤ poll.answered checks check

/-- The check with the given number is the first one that a poll ends with. -/
structure IsLast (last : Nat) : Prop where
  ends : poll.EndsAt checks last
  goesOn : ∀ earlier < last, ¬ poll.EndsAt checks earlier

variable {poll checks} {check last : Nat}

@[simp]
theorem not_endsAt_iff :
    ¬ poll.EndsAt checks check ↔
      poll.afterCheck (poll.answered checks check) (checks check).answer = none := by
  simp [EndsAt]

private theorem interval_mul_le_beginning (poll : Poll) (checks : Nat → TimedCheck) (check : Nat) :
    check * poll.interval.nanoseconds ≤ (poll.beginning checks check).nanoseconds := by
  induction check with
  | zero => exact Nat.le_of_eq (Nat.zero_mul _)
  | succ check inductionHypothesis =>
      rw [Nat.succ_mul]
      show _ ≤ (poll.beginning checks check).nanoseconds + (checks check).duration.nanoseconds +
        poll.interval.nanoseconds
      omega

/-- A poll with a positive interval comes to its end before its checks run out. -/
theorem exists_isLast (checks : Nat → TimedCheck) (positive : 0 < poll.interval.nanoseconds) :
    ∃ last, poll.IsLast checks last ∧ last < poll.checkBound := by
  classical
  have isOver : poll.EndsAt checks
      (poll.timeout.nanoseconds / poll.interval.nanoseconds + 1) := by
    right
    have enough := Nat.lt_div_mul_add positive (a := poll.timeout.nanoseconds)
    rw [← Nat.succ_mul] at enough
    have begins := interval_mul_le_beginning poll checks
      (poll.timeout.nanoseconds / poll.interval.nanoseconds + 1)
    exact Nat.le_trans (Nat.le_of_lt (Nat.lt_of_lt_of_le enough begins)) (Nat.le_add_right _ _)
  have ends : ∃ check, poll.EndsAt checks check := ⟨_, isOver⟩
  refine ⟨Nat.find ends, ⟨Nat.find_spec ends, fun earlier => Nat.find_min ends⟩, ?_⟩
  exact Nat.lt_succ_of_le (Nat.find_min' ends isOver)

/-- The last check begins before the timeout and one interval have gone by. -/
theorem IsLast.beginning_lt (isLast : poll.IsLast checks last)
    (positive : 0 < poll.interval.nanoseconds) :
    poll.beginning checks last < poll.timeout + poll.interval := by
  cases last with
  | zero => exact Nat.lt_of_lt_of_le positive (Nat.le_add_left _ _)
  | succ previous =>
      have early : ¬ poll.timeout ≤ poll.answered checks previous := fun isOver =>
        isLast.goesOn previous (Nat.lt_succ_self previous) (.inr isOver)
      exact Nat.add_lt_add_right (Nat.lt_of_not_le early) _

theorem IsLast.eq {other : Nat} (isLast : poll.IsLast checks last)
    (isOther : poll.IsLast checks other) : last = other := by
  rcases Nat.lt_trichotomy last other with earlier | same | later
  · exact absurd isLast.ends (isOther.goesOn last earlier)
  · exact same
  · exact absurd isOther.ends (isLast.goesOn other later)

section Instantaneous

variable (instantaneous : ∀ check, (checks check).duration = ⟨0⟩)
include instantaneous

theorem answered_of_instantaneous (check : Nat) :
    poll.answered checks check = poll.beginning checks check := by
  rw [answered, instantaneous]
  rfl

theorem beginning_of_instantaneous (check : Nat) :
    poll.beginning checks check = ⟨check * poll.interval.nanoseconds⟩ := by
  induction check with
  | zero => exact congrArg Duration.mk (Nat.zero_mul _).symm
  | succ check inductionHypothesis =>
      rw [beginning, instantaneous, inductionHypothesis, Nat.succ_mul]
      rfl

end Instantaneous

/-! ## The run -/

/-- The checks of a poll that started at the given instant, on a time line. -/
abbrev repeatTimed (poll : Poll) (checks : Nat → TimedCheck) (start : Duration) (bound : Nat) :
    StateM Timeline (Option (Except Failure Unit)) :=
  poll.repeatCheck (Timeline.now <$> get) (fun span => modify (·.after span)) (nextCheck checks)
    start bound

private theorem run_repeatTimed_succ (start : Duration) (bound : Nat) {timeline : Timeline}
    {check : TimedCheck} (isNext : checks timeline.begun.length = check) :
    (repeatTimed poll checks start (bound + 1)).run timeline =
      match poll.afterCheck ((timeline.checked check.duration).now - start) check.answer with
      | some result => (some result, timeline.checked check.duration)
      | none => (repeatTimed poll checks start bound).run
          ((timeline.checked check.duration).after poll.interval) := by
  subst isNext
  let check := checks timeline.begun.length
  have looksOnce : (repeatTimed poll checks start (bound + 1)).run timeline =
      StateT.run (match poll.afterCheck ((timeline.checked check.duration).now - start)
          check.answer with
        | some result => pure (some result)
        | none => do
            modify (·.after poll.interval)
            repeatTimed poll checks start bound) (timeline.checked check.duration) := rfl
  rw [looksOnce]
  cases poll.afterCheck ((timeline.checked check.duration).now - start) check.answer with
  | some result => rfl
  | none => rfl

/-- Where the poll stands when it comes to the check with the given number. -/
def comingTo (poll : Poll) (checks : Nat → TimedCheck) (check : Nat) : Timeline where
  now := poll.beginning checks check
  begun := ((List.range check).map (poll.beginning checks)).reverse

/-- Where the poll stands when the check with the given number has been answered. -/
def doneWith (poll : Poll) (checks : Nat → TimedCheck) (check : Nat) : Timeline where
  now := poll.answered checks check
  begun := ((List.range (check + 1)).map (poll.beginning checks)).reverse

@[simp]
theorem checked_comingTo (check : Nat) :
    (poll.comingTo checks check).checked (checks check).duration = poll.doneWith checks check := by
  simp only [comingTo, doneWith, Timeline.checked, answered, List.range_succ, List.map_append,
    List.map_cons, List.map_nil, List.reverse_append, List.reverse_cons, List.reverse_nil,
    List.nil_append, List.cons_append]

/-- One check of the poll, on its own clock. -/
theorem run_comingTo (check bound : Nat) :
    (repeatTimed poll checks ⟨0⟩ (bound + 1)).run (poll.comingTo checks check) =
      match poll.afterCheck (poll.answered checks check) (checks check).answer with
      | some result => (some result, poll.doneWith checks check)
      | none => (repeatTimed poll checks ⟨0⟩ bound).run (poll.comingTo checks (check + 1)) := by
  have sameCheck : (poll.comingTo checks check).begun.length = check := by
    rw [comingTo, List.length_reverse, List.length_map, List.length_range]
  rw [run_repeatTimed_succ ⟨0⟩ bound (congrArg checks sameCheck), checked_comingTo]
  rfl

/-- A poll goes on from any check up to the last one, as long as its checks do not run out. -/
theorem run_of_isLast {result : Except Failure Unit} (isLast : poll.IsLast checks last)
    (checked : poll.afterCheck (poll.answered checks last) (checks last).answer = some result)
    {bound : Nat} (reached : check ≤ last) (enough : last < check + bound) :
    (repeatTimed poll checks ⟨0⟩ bound).run (poll.comingTo checks check) =
      (some result, poll.doneWith checks last) := by
  induction bound generalizing check with
  | zero => omega
  | succ bound inductionHypothesis =>
      rw [run_comingTo]
      rcases Nat.lt_or_eq_of_le reached with earlier | rfl
      · rw [not_endsAt_iff.mp (isLast.goesOn check earlier)]
        exact inductionHypothesis earlier (by omega)
      · rw [checked]

private theorem run_of_few_checks (goesOn : ∀ earlier < last, ¬ poll.EndsAt checks earlier) {bound : Nat}
    (few : check + bound ≤ last) :
    ((repeatTimed poll checks ⟨0⟩ bound).run (poll.comingTo checks check)).1 = none := by
  induction bound generalizing check with
  | zero => rfl
  | succ bound inductionHypothesis =>
      rw [run_comingTo, not_endsAt_iff.mp (goesOn check (by omega))]
      exact inductionHypothesis (by omega)

/-! ## The end of a poll -/

/-- A poll with a positive interval ends, and runs the checks up to the first one that says yes or
is answered when the time is up.  It succeeds if that one says yes, even late, and otherwise reports
that the time is up; the failure of a check is never its end.  The last check begins before the
timeout and one interval have gone by, so where checks take no time, the report comes before that as
well, and for a check begun when the time was up. -/
theorem runTimed_ends (poll : Poll) (checks : Nat → TimedCheck)
    (positive : 0 < poll.interval.nanoseconds) :
    ∃ last result, poll.IsLast checks last ∧ last < poll.checkBound ∧
      (∀ bound, last < bound →
        (poll.runTimed checks bound).1 = some result ∧
        (poll.runTimed checks bound).2.now = poll.answered checks last ∧
        (poll.runTimed checks bound).2.beginnings =
          (List.range (last + 1)).map (poll.beginning checks)) ∧
      (∀ bound ≤ last, (poll.runTimed checks bound).1 = none) ∧
      (((checks last).answer = .ok true ∧ result = .ok ()) ∨
        (checks last).answer ≠ .ok true ∧ poll.timeout ≤ poll.answered checks last ∧
          result = .error (.timeout poll.message (poll.answered checks last))) ∧
      poll.beginning checks last < poll.timeout + poll.interval ∧
      ((∀ check, (checks check).duration = ⟨0⟩) → result ≠ .ok () →
        poll.timeout ≤ poll.beginning checks last ∧
          poll.answered checks last < poll.timeout + poll.interval) := by
  obtain ⟨last, isLast, inBound⟩ := exists_isLast checks positive
  cases checked : poll.afterCheck (poll.answered checks last) (checks last).answer with
  | none => exact absurd isLast.ends (not_endsAt_iff.mpr checked)
  | some result =>
      have verdict := afterCheck_eq_some_iff.mp checked
      have begins := isLast.beginning_lt positive
      refine ⟨last, result, isLast, inBound, ?_, ?_, verdict, begins, ?_⟩
      · intro bound enough
        have ran : poll.runTimed checks bound = (some result, poll.doneWith checks last) :=
          run_of_isLast isLast checked (Nat.zero_le last) (by omega)
        rw [ran]
        exact ⟨rfl, rfl, List.reverse_reverse _⟩
      · intro bound few
        have unended :
            ((repeatTimed poll checks ⟨0⟩ bound).run (poll.comingTo checks 0)).1 = none :=
          run_of_few_checks isLast.goesOn (by omega)
        exact unended
      · intro instantaneous failed
        have sameInstant : poll.answered checks last = poll.beginning checks last :=
          answered_of_instantaneous instantaneous last
        rcases verdict with ⟨_, succeeded⟩ | ⟨_, isOver, _⟩
        · exact absurd succeeded failed
        · exact ⟨sameInstant ▸ isOver, sameInstant ▸ begins⟩

/-- Checks of 50 milliseconds: the first fails, two say no, and all others say yes. -/
def slowChecks : Nat → TimedCheck
  | 0 => ⟨.ofMilliseconds 50, .error (.server (.unreachable "connection reset"))⟩
  | 1 | 2 => ⟨.ofMilliseconds 50, .ok false⟩
  | _ => ⟨.ofMilliseconds 50, .ok true⟩

/-- A poll for one second with looks 300 milliseconds apart. -/
def shortPoll : Poll := ⟨.ofSeconds 1, .ofMilliseconds 300, "the pod is still there"⟩

private theorem isLast_slowChecks : shortPoll.IsLast slowChecks 3 where
  ends := .inl rfl
  goesOn earlier isEarlier := by
    refine not_endsAt_iff.mpr ?_
    match earlier, isEarlier with
    | 0, _ | 1, _ | 2, _ => rfl

/-- The poll succeeds after the time was up: its last check had begun after the timeout. -/
theorem runTimed_ends_of_slowChecks :
    (shortPoll.runTimed slowChecks shortPoll.checkBound).1 = some (.ok ()) ∧
      (shortPoll.runTimed slowChecks shortPoll.checkBound).2.now = .ofMilliseconds 1100 ∧
      (shortPoll.runTimed slowChecks shortPoll.checkBound).2.beginnings =
        [0, 350, 700, 1050].map Duration.ofMilliseconds := by
  have positive : 0 < shortPoll.interval.nanoseconds := by decide
  obtain ⟨last, result, isLast, inBound, ran, _, verdict, _⟩ :=
    runTimed_ends shortPoll slowChecks positive
  obtain rfl : last = 3 := isLast.eq isLast_slowChecks
  obtain ⟨isResult, isNow, begun⟩ := ran _ inBound
  rcases verdict with ⟨_, rfl⟩ | ⟨notYet, _⟩
  · exact ⟨isResult, isNow, begun⟩
  · exact absurd rfl notYet

end Poll

end Provisioning
