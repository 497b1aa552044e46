import Provisioning.Cluster.Located
import Provisioning.Defaults
import Provisioning.Rehearsal.Call
import Provisioning.Rehearsal.Clock
import Provisioning.Wait.Event

/-!
# The world of a rehearsal

A cluster in memory, on a clock that moves only when someone waits.  Changes are scheduled for later
instants and made, in order, once they are due.  Every change of an object is an event for the
streams that are open on it.
-/

namespace Provisioning.Rehearsal

variable {α : Type}

/-- A change of the world. -/
inductive Change (α : Type) where
  /-- Puts an object into the cluster. -/
  | put (object : α)
  /-- Changes an object, if it is there. -/
  | revise (wanted : ObjectKey) (revision : α → α)
  /-- Removes an object, if it is there. -/
  | remove (wanted : ObjectKey)
  /-- Every open stream breaks with an error. -/
  | breakStreams (message : String)
  /-- Every open stream ends after what it still holds. -/
  | endStreams

/-- What happens to one call in place of an immediate answer: time passes, the call is never
answered, the world changes just before it is, or it fails. -/
structure Fault (α : Type) (kind : CallKind) where
  delay : Duration := ⟨0⟩
  stalls : Bool := false
  before : List (Change α) := []
  trouble : Option kind.Trouble := none

/-- A change that follows the creation of an object after a while. -/
structure Reaction (α : Type) where
  delay : Duration
  change : ObjectKey → Change α

/-- A stream of events about the objects that a locator addresses. -/
structure Stream (α : Type) where
  locator : Locator
  /-- The events that were not fetched yet. -/
  queue : List (Except WaitError (WatchEvent α)) := []
  hasEnded : Bool := false

/-- Puts an item behind those that a stream holds. -/
def Stream.push (item : Except WaitError (WatchEvent α)) (stream : Stream α) : Stream α :=
  { stream with queue := stream.queue ++ [item] }

/-- A cluster in memory and all that is known about its future. -/
structure World (α : Type) [ClusterObject α] extends Clock where
  store : Store α := .empty
  /-- The changes to come, in the order of their instants and then of their scheduling. -/
  pending : List (Duration × Change α) := []
  streams : List (Stream α) := []
  faults : (kind : CallKind) → List (Option (Fault α kind)) := fun _ => []
  reactions : List (Reaction α) := []
  defaults : Defaults := {}
  /-- The time that a deleted object stays. -/
  grace : Duration := ⟨0⟩
  /-- The calls that were made, the latest one first. -/
  calls : List (Call α) := []
  /-- The objects that a condition was asked about, the latest one first. -/
  asked : List α := []

instance [ClusterObject α] : Clocked (World α) where
  clock world := world.toClock
  withClock clock world := { world with toClock := clock }

namespace World

variable [ClusterObject α]

/-- Passes an event on to the open streams that cover its object. -/
def emit (world : World α) (event : WatchEvent α) : World α :=
  { world with
    streams := world.streams.map fun stream =>
      if !stream.hasEnded && stream.locator.covers event.object then stream.push (.ok event)
      else stream }

/-- The world with an object put into the cluster. -/
def put (world : World α) (object : α) : World α :=
  ({ world with store := world.store.put object }).emit (.applied object)

def apply (world : World α) : Change α → World α
  | .put object => world.put object
  | .revise wanted revision =>
      match world.store.find? wanted with
      | some object => world.put (revision object)
      | none => world
  | .remove wanted =>
      match world.store.find? wanted with
      | some object => ({ world with store := world.store.remove wanted }).emit (.deleted object)
      | none => world
  | .breakStreams message =>
      { world with
        streams := world.streams.map fun stream =>
          if stream.hasEnded then stream
          else stream.push (.error (.subscriptionFailed stream.locator message)) }
  | .endStreams =>
      { world with
        streams := world.streams.map fun stream => { stream with hasEnded := true } }

/-- A change put behind those that are scheduled for the same instant or an earlier one. -/
def insertChange (instant : Duration) (change : Change α) :
    List (Duration × Change α) → List (Duration × Change α)
  | [] => [(instant, change)]
  | (other, earlier) :: rest =>
      if instant < other then (instant, change) :: (other, earlier) :: rest
      else (other, earlier) :: insertChange instant change rest

def schedule (world : World α) (delay : Duration) (change : Change α) : World α :=
  { world with pending := insertChange (world.now + delay) change world.pending }

def applyDue (world : World α) : World α :=
  let due := world.pending.takeWhile fun change => change.1 ≤ world.now
  let later := world.pending.dropWhile fun change => change.1 ≤ world.now
  due.foldl (fun world change => world.apply change.2) { world with pending := later }

/-- The world with an object that someone creates, and with the reactions to that. -/
def created (world : World α) (object : α) : World α :=
  world.reactions.foldl
    (fun world reaction =>
      world.schedule reaction.delay (reaction.change (ClusterObject.key object)))
    (world.put object)

end World

variable {β : Type} [ClusterObject α]

/-- The fault of the next call of a kind, if there is one, taken out of the world. -/
def takeFault (kind : CallKind) : Action (World α) (Option (Fault α kind)) := do
  let fault := ((← get).faults kind).head?.join
  modify fun world =>
    { world with
      faults := fun other =>
        if other = kind then (world.faults other).tail else world.faults other }
  return fault

/-- Makes a call: it is noted, its fault happens, and unless that fails it, the work is done. -/
def collaborate (call : Call α) (work : Action (World α) (Except call.kind.Trouble β)) :
    Action (World α) (Except call.kind.Trouble β) := do
  modify fun world => { world with calls := call :: world.calls }
  match ← takeFault call.kind with
  | none => do
      modify World.applyDue
      work
  | some fault => do
      pause fault.delay
      if fault.stalls then stall
      modify fun world => fault.before.foldl World.apply world.applyDue
      match fault.trouble with
      | some trouble => return .error trouble
      | none => work

end Provisioning.Rehearsal
