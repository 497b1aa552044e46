import Provisioning.Wait.Error
import Provisioning.Wait.Event

/-!
# Waiting for an object

A wait looks at the current objects first and returns the first that satisfies its condition.  If
none does, it subscribes and looks at every event in the order of arrival, deletions included.  One
deadline bounds all of this; a broken or ended stream fails the wait at once.

The source of objects and events is a parameter, in any monad: it reads the clock, and it tells for
every operation whether it was answered before the deadline.
-/

namespace Provisioning

/-- An answer to a bounded operation: in time, or not before the deadline. -/
inductive Timely (α : Type) where
  | inTime (answer : α)
  | late
  deriving DecidableEq, Repr

/-- A source of objects and events.  Every operation is bounded by an instant. -/
structure WatchSource (m : Type → Type) (Subscription α : Type) where
  /-- The time on the clock. -/
  now : m Duration
  /-- The objects that there are. -/
  current : Locator → Duration → m (Timely (Except WaitError (List α)))
  /-- Opens a stream of events. -/
  subscribe : Locator → Duration → m (Timely (Except WaitError Subscription))
  /-- The next event of a stream, nothing at its end. -/
  next : Subscription → Duration → m (Timely (Option (Except WaitError (WatchEvent α))))

namespace Wait

/-- How a wait ends. -/
inductive End (α : Type) where
  /-- An object satisfied the condition. -/
  | met (object : α)
  | failed (error : WaitError)
  /-- The deadline lies beyond what the clock can count; nothing was asked for. -/
  | beyondClock
  deriving DecidableEq, Repr

/-- The seconds that a clock can count. -/
def clockReach : Nat := 9223372036854775808

/-- The instant at which a wait that starts now gives up, if the clock can count so far. -/
def deadline? (start timeout : Duration) : Option Duration :=
  let deadline := start + timeout
  if deadline.seconds < clockReach then some deadline else none

theorem eq_of_deadline? {start timeout deadline : Duration}
    (reach : deadline? start timeout = some deadline) : deadline = start + timeout := by
  simp only [deadline?] at reach
  split at reach
  · exact (Option.some.inj reach).symm
  · cases reach

def beyondClockMessage : String := "overflow when adding duration to instant"

variable {m : Type → Type} [Monad m] {Subscription α : Type}

/-- The first object that satisfies a condition; later ones are not asked about. -/
def firstMeeting (condition : α → m Bool) : List α → m (Option α)
  | [] => pure none
  | object :: rest => do
      if ← condition object then return some object
      else firstMeeting condition rest

/-- The end of a wait whose deadline has passed. -/
def timedOut (source : WatchSource m Subscription α) (locator : Locator) (start : Duration) :
    m (End α) := do
  let now ← source.now
  return .failed (.timedOut locator (now - start))

/-- Looks at the events of a stream, at most as many as given, until one ends the wait. -/
def listen (source : WatchSource m Subscription α) (condition : α → m Bool) (locator : Locator)
    (start deadline : Duration) (subscription : Subscription) : Nat → m (Option (End α))
  | 0 => pure none
  | events + 1 => do
      match ← source.next subscription deadline with
      | .late => some <$> timedOut source locator start
      | .inTime none =>
          return some (.failed (.subscriptionFailed locator "event stream ended"))
      | .inTime (some (.error error)) => return some (.failed error)
      | .inTime (some (.ok event)) =>
          if ← condition event.object then return some (.met event.object)
          else listen source condition locator start deadline subscription events

/-- Waits until an object satisfies the condition, looking at no more events than given; nothing is
returned by a wait that would go on. -/
def run (source : WatchSource m Subscription α) (condition : α → m Bool) (locator : Locator)
    (timeout : Duration) (events : Nat) : m (Option (End α)) := do
  let start ← source.now
  match deadline? start timeout with
  | none => return some .beyondClock
  | some deadline =>
      match ← source.current locator deadline with
      | .late => some <$> timedOut source locator start
      | .inTime (.error error) => return some (.failed error)
      | .inTime (.ok objects) =>
          match ← firstMeeting condition objects with
          | some object => return some (.met object)
          | none =>
              match ← source.subscribe locator deadline with
              | .late => some <$> timedOut source locator start
              | .inTime (.error error) => return some (.failed error)
              | .inTime (.ok subscription) =>
                  listen source condition locator start deadline subscription events

end Wait

end Provisioning
