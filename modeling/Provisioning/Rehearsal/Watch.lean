import Provisioning.Rehearsal.World

/-!
# Watching in a rehearsal

The rehearsed cluster as a source of objects and events, and waits on it.
-/

namespace Provisioning.Rehearsal

variable {α : Type} [ClusterObject α]

def openStream (locator : Locator) : Action (World α) Nat := do
  let world ← get
  let stream : Stream α := { locator }
  set { world with streams := world.streams ++ [stream] }
  return world.streams.length

/-- The next item of a stream, nothing at its end.  Time passes from one scheduled change to the next
until there is one, over no more changes than given. -/
def nextItem (number : Nat) : Nat → Action (World α) (Option (Except WaitError (WatchEvent α)))
  | 0 => stall
  | changes + 1 => do
      modify World.applyDue
      let world ← get
      match world.streams[number]? with
      | none => return none
      | some stream =>
          match stream.queue with
          | item :: rest => do
              set { world with streams := world.streams.set number { stream with queue := rest } }
              return some item
          | [] =>
              if stream.hasEnded then return none
              else
                match world.pending.head? with
                | none => stall
                | some (instant, _) => do
                    pauseUntil instant
                    nextItem number changes

/-- The rehearsed cluster as a source of objects and events. -/
def watchSource : WatchSource (Action (World α)) Nat α where
  now := (·.now) <$> readClock
  current locator deadline := within deadline do
    let found ← collaborate (.current locator) do return .ok ((← get).store.located locator)
    return found.mapError (· locator)
  subscribe locator deadline := within deadline do
    let opened ← collaborate (.subscribe locator) (.ok <$> openStream locator)
    return opened.mapError (· locator)
  next number deadline := within deadline do
    nextItem number ((← get).pending.length + 1)

/-- Waits for an object; the streams of the wait are closed at its end.  A change is at most one event
for a stream, so the wait sees no more events than there are changes to come. -/
def waitFor (condition : α → Action (World α) Bool) (locator : Locator) (timeout : Duration) :
    Action (World α) (Wait.End α) := do
  let events := (← get).pending.length + 1
  match ← Wait.run watchSource condition locator timeout events with
  | some result => do
      modify fun world => { world with streams := [] }
      return result
  | none => stall

/-- A condition that is noted whenever it is asked, and may break off. -/
def noting (condition : α → Except String Bool) (object : α) : Action (World α) Bool := do
  modify fun world => { world with asked := object :: world.asked }
  match condition object with
  | .ok answer => return answer
  | .error message => throw (.panicked message)

/-- Waits for an object and tells which objects the condition was asked about, in their order. -/
def notedWait (condition : α → Except String Bool) (locator : Locator) (timeout : Duration) :
    Action (World α) (Except WaitError α × List α) := do
  let result ← waitFor (noting condition) locator timeout
  let asked := (← get).asked.reverse
  match result with
  | .met object => return (.ok object, asked)
  | .failed error => return (.error error, asked)
  | .beyondClock => throw (.panicked Wait.beyondClockMessage)

/-- Creates an object, unless its key is taken. -/
def create (object : α) : Action (World α) (Except Failure α) :=
  collaborate (.create object) do
    match (← get).store.create object with
    | .error failure => return .error failure
    | .ok _ => do
        modify (·.created object)
        return .ok object

def loadDefaults : Action (World α) (Except Failure Defaults) :=
  collaborate .loadDefaults do return .ok (← get).defaults

end Provisioning.Rehearsal
