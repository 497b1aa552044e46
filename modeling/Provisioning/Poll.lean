import Provisioning.Failure

/-!
# Polling

A poll repeats a check at intervals until it answers yes or the time is up.  A check that fails counts
as not yet.  The clock is looked at after every check, so a yes counts even when it comes late.
-/

namespace Provisioning

/-- A bounded repetition of a check. -/
structure Poll where
  timeout : Duration
  interval : Duration
  /-- What is being waited for, in words. -/
  message : String
  deriving DecidableEq, Repr

namespace Poll

/-- What follows a check that was answered after the given time: the end of the poll, or another
check. -/
def afterCheck (poll : Poll) (elapsed : Duration) (answer : Except Failure Bool) :
    Option (Except Failure Unit) :=
  match answer with
  | .ok true => some (.ok ())
  | _ =>
      if poll.timeout ≤ elapsed then some (.error (.timeout poll.message elapsed)) else none

@[simp]
theorem afterCheck_eq_none_iff {poll : Poll} {elapsed : Duration} {answer : Except Failure Bool} :
    poll.afterCheck elapsed answer = none ↔ answer ≠ .ok true ∧ ¬ poll.timeout ≤ elapsed := by
  rcases answer with failure | _ | _ <;> simp [afterCheck]

theorem afterCheck_eq_some_iff {poll : Poll} {elapsed : Duration} {answer : Except Failure Bool}
    {result : Except Failure Unit} :
    poll.afterCheck elapsed answer = some result ↔
      (answer = .ok true ∧ result = .ok ()) ∨
        answer ≠ .ok true ∧ poll.timeout ≤ elapsed ∧
          result = .error (.timeout poll.message elapsed) := by
  rcases answer with failure | _ | _ <;> simp [afterCheck, eq_comm]

/-- The number of checks after which a poll with a positive interval has ended: every check but the
first comes at least one interval after the one before. -/
def checkBound (poll : Poll) : Nat :=
  poll.timeout.nanoseconds / poll.interval.nanoseconds + 2

variable {m : Type → Type} [Monad m]

/-- Repeats the check of a poll that started at the given instant, at most as often as given. -/
def repeatCheck (now : m Duration) (sleep : Duration → m Unit) (check : m (Except Failure Bool))
    (poll : Poll) (start : Duration) : Nat → m (Option (Except Failure Unit))
  | 0 => pure none
  | checks + 1 => do
      let answer ← check
      let elapsed := (← now) - start
      match poll.afterCheck elapsed answer with
      | some result => return some result
      | none => do
          sleep poll.interval
          repeatCheck now sleep check poll start checks

/-- Runs a poll with no more checks than given; nothing is returned by one that would go on. -/
def run (now : m Duration) (sleep : Duration → m Unit) (check : m (Except Failure Bool))
    (poll : Poll) (checks : Nat) : m (Option (Except Failure Unit)) := do
  repeatCheck now sleep check poll (← now) checks

end Poll

end Provisioning
