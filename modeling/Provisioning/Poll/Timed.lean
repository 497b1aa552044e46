import Provisioning.Poll

/-!
# Polls of checks that take time

A poll on a clock of its own, which starts at zero and moves only while a check runs and while the
poll sleeps.  What every check answers, and how long it takes, is given beforehand.
-/

namespace Provisioning

/-- A check that takes a known time to its answer. -/
structure TimedCheck where
  duration : Duration
  answer : Except Failure Bool

namespace Poll

/-- Where a poll of timed checks stands. -/
structure Timeline where
  now : Duration := ⟨0⟩
  /-- When each check began, the latest one first. -/
  begun : List Duration := []

namespace Timeline

/-- The instants at which the checks began, in order. -/
def beginnings (timeline : Timeline) : List Duration :=
  timeline.begun.reverse

/-- The time line after a span in which nothing happens. -/
def after (timeline : Timeline) (span : Duration) : Timeline :=
  { timeline with now := timeline.now + span }

/-- The time line after a check that begins now and takes the given time. -/
def checked (timeline : Timeline) (duration : Duration) : Timeline :=
  { now := timeline.now + duration, begun := timeline.now :: timeline.begun }

end Timeline

def nextCheck (checks : Nat → TimedCheck) : StateM Timeline (Except Failure Bool) := do
  let check := checks (← get).begun.length
  modify (·.checked check.duration)
  return check.answer

/-- Runs a poll over a sequence of timed checks, with no more checks than given. -/
def runTimed (poll : Poll) (checks : Nat → TimedCheck) (bound : Nat) :
    Option (Except Failure Unit) × Timeline :=
  let program : StateM Timeline (Option (Except Failure Unit)) :=
    run (Timeline.now <$> get) (fun span => modify (·.after span)) (nextCheck checks) poll bound
  program.run {}

end Poll

end Provisioning
