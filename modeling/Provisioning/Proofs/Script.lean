import Provisioning.Wait.Basic

/-!
# Scripts of waits

A script says when a source answers, and what.  It is played on a clock that only moves while an
answer is awaited: an answer that is there already is in time, and so is one that comes before
the deadline.  Whether one that comes just at the deadline is in time, is up to the script.  The
player counts the subscriptions and notes the objects that the condition is asked about.

What a wait should do on a script is `Script.expected`, which knows neither the clock nor the loop.
-/

namespace Provisioning

/-- An answer, and the instant from which on it is available. -/
structure Arrival (β : Type) where
  instant : Duration
  answer : β

/-- What a stream delivers: an event, an error, or its end. -/
abbrev StreamItem (α : Type) := Option (Except WaitError (WatchEvent α))

/-- When a source answers, and what.  What never comes is absent; the items of the stream become
available in their order. -/
structure Script (α : Type) where
  /-- Whether an answer that comes just at the deadline is in time. -/
  inclusive : Bool
  current : Option (Arrival (Except WaitError (List α)))
  subscribed : Option (Arrival (Except WaitError Unit))
  items : List (Arrival (StreamItem α))
  ordered : items.Pairwise fun earlier later => earlier.instant ≤ later.instant

/-! ## Playing a script -/

/-- Where the player is: the time, the items that are left, how often a stream was opened, and which
objects the condition was asked about. -/
structure Playback (α : Type) where
  clock : Duration
  left : List (Arrival (StreamItem α))
  subscriptions : Nat := 0
  asked : List α := []

/-- Whether an instant is before the deadline, or at it where that counts. -/
def Duration.isWithin (instant : Duration) (inclusive : Bool) (deadline : Duration) : Bool :=
  instant < deadline || inclusive && instant = deadline

/-- Awaits an answer up to a deadline, from the time on the clock to that when the await ends. -/
def Arrival.await {β : Type} (inclusive : Bool) (clock deadline : Duration) :
    Option (Arrival β) → Timely β × Duration
  | none => (.late, if clock < deadline then deadline else clock)
  | some arrival =>
      if arrival.instant ≤ clock then (.inTime arrival.answer, clock)
      else if arrival.instant.isWithin inclusive deadline then
        (.inTime arrival.answer, arrival.instant)
      else (.late, if clock < deadline then deadline else clock)

variable {α : Type}

/-- The source that a script describes.  Its stream delivers the items that are left. -/
def Script.source (script : Script α) : WatchSource (StateM (Playback α)) Unit α where
  now := fun playback => (playback.clock, playback)
  current _ deadline := fun playback =>
    let (answer, clock) := Arrival.await script.inclusive playback.clock deadline script.current
    (answer, { playback with clock })
  subscribe _ deadline := fun playback =>
    let (answer, clock) := Arrival.await script.inclusive playback.clock deadline script.subscribed
    (answer, { playback with clock, subscriptions := playback.subscriptions + 1 })
  next _ deadline := fun playback =>
    let (answer, clock) :=
      Arrival.await script.inclusive playback.clock deadline playback.left.head?
    (answer, { playback with clock, left := playback.left.tail })

/-- A condition that is noted whenever it is asked. -/
def noted (condition : α → Bool) (object : α) : StateM (Playback α) Bool := fun playback =>
  (condition object, { playback with asked := playback.asked ++ [object] })

/-! ## What a wait should do -/

/-- What can be seen of a wait: how it ended, which objects the condition was asked about, in their
order, and how often a stream was opened. -/
structure Observation (α : Type) where
  outcome : Wait.End α
  asked : List α := []
  subscriptions : Nat := 0

/-- The elements up to and including the first one that meets a condition. -/
def upToFirst {β : Type} (condition : β → Bool) (elements : List β) : List β :=
  elements.takeWhile (fun element => !condition element) ++ (elements.find? condition).toList

/-- An answer is in time if it is there at the start of the wait or comes within the deadline. -/
def Arrival.isTimely {β : Type} (inclusive : Bool) (start deadline : Duration)
    (arrival : Arrival β) : Bool :=
  arrival.instant ≤ start || arrival.instant.isWithin inclusive deadline

namespace StreamItem

/-- An item ends a wait unless it is an event whose object does not meet the condition. -/
def decides (condition : α → Bool) : StreamItem α → Bool
  | some (.ok event) => condition event.object
  | some (.error _) => true
  | none => true

/-- How an item ends a wait. -/
def verdict (locator : Locator) : StreamItem α → Wait.End α
  | some (.ok event) => .met event.object
  | some (.error error) => .failed error
  | none => .failed (.subscriptionFailed locator "event stream ended")

/-- The object that an item offers. -/
def object? : StreamItem α → Option α
  | some (.ok event) => some event.object
  | some (.error _) => none
  | none => none

end StreamItem

namespace Script

/-- How a stream ends a wait: by its first item that decides, if that is in time. -/
def streamOutcome (inclusive : Bool) (items : List (Arrival (StreamItem α)))
    (condition : α → Bool) (locator : Locator) (start deadline : Duration) : Wait.End α :=
  match items.find? fun item => StreamItem.decides condition item.answer with
  | some item =>
      if item.isTimely inclusive start deadline then StreamItem.verdict locator item.answer
      else .failed (.timedOut locator (deadline - start))
  | none => .failed (.timedOut locator (deadline - start))

/-- The objects that a stream offers in time, to the one that ends the wait. -/
def streamAsked (inclusive : Bool) (items : List (Arrival (StreamItem α)))
    (condition : α → Bool) (start deadline : Duration) : List α :=
  (upToFirst (fun item => StreamItem.decides condition item.answer)
    (items.filter (Arrival.isTimely inclusive start deadline))).filterMap fun item =>
      StreamItem.object? item.answer

/-- What a wait on a script should do up to a deadline. -/
def expectedUntil (script : Script α) (condition : α → Bool) (locator : Locator)
    (start deadline : Duration) : Observation α :=
  let timedOut : Wait.End α := .failed (.timedOut locator (deadline - start))
  match script.current.filter (Arrival.isTimely script.inclusive start deadline) with
  | none => { outcome := timedOut }
  | some ⟨_, .error error⟩ => { outcome := .failed error }
  | some ⟨_, .ok objects⟩ =>
      let asked := upToFirst condition objects
      match objects.find? condition with
      | some object => { outcome := .met object, asked }
      | none =>
          match script.subscribed.filter (Arrival.isTimely script.inclusive start deadline) with
          | none => { outcome := timedOut, asked, subscriptions := 1 }
          | some ⟨_, .error error⟩ => { outcome := .failed error, asked, subscriptions := 1 }
          | some ⟨_, .ok ()⟩ =>
              { outcome :=
                  streamOutcome script.inclusive script.items condition locator start deadline
                asked := asked ++
                  streamAsked script.inclusive script.items condition start deadline
                subscriptions := 1 }

/-- What a wait on a script should do.  One whose deadline no clock can count to does nothing. -/
def expected (script : Script α) (condition : α → Bool) (locator : Locator)
    (start timeout : Duration) : Observation α :=
  match Wait.deadline? start timeout with
  | none => { outcome := .beyondClock }
  | some deadline => script.expectedUntil condition locator start deadline

end Script

end Provisioning
