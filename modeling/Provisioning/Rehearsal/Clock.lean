import Provisioning.Wait.Basic

/-!
# The clock of a rehearsal

An action changes the state of a rehearsal and may let time pass, up to the end of the wait that is
going on and to the limit of the rehearsal.  What happens exactly at one of these instants still
happens.
-/

namespace Provisioning.Rehearsal

/-- The instant at which every rehearsal starts.  Clocks do not start at zero. -/
def clockStart : Duration := .ofSeconds 1000

/-- The end of time for a rehearsal that sets no other limit. -/
def farFuture : Duration := clockStart + .ofMilliseconds 1000000000000

/-- A clock that moves only when someone waits. -/
structure Clock where
  now : Duration := clockStart
  /-- Nothing happens after this instant. -/
  limit : Duration := farFuture
  /-- The end of the wait that is going on. -/
  deadline : Option Duration := none

/-- A state that has a clock. -/
class Clocked (σ : Type) where
  clock : σ → Clock
  withClock : Clock → σ → σ

/-- Why an action did not come to its end. -/
inductive Halt where
  /-- The wait that was going on is over. -/
  | late
  /-- The limit of the rehearsal is reached. -/
  | cancelled
  /-- The program broke off. -/
  | panicked (message : String)
  deriving DecidableEq, Repr

abbrev Action (σ : Type) := ExceptT Halt (StateM σ)

namespace Clock

/-- The instant up to which time can pass, and why it ends there. -/
def horizon (clock : Clock) : Duration × Halt :=
  match clock.deadline with
  | some deadline =>
      if deadline ≤ clock.limit then (deadline, .late) else (clock.limit, .cancelled)
  | none => (clock.limit, .cancelled)

/-- The clock at an instant, which never lies in the past. -/
def reach (clock : Clock) (instant : Duration) : Clock :=
  if clock.now ≤ instant then { clock with now := instant } else clock

end Clock

variable {σ β : Type} [Clocked σ]

def readClock : Action σ Clock :=
  Clocked.clock <$> get

def modifyClock (change : Clock → Clock) : Action σ Unit :=
  modify fun state => Clocked.withClock (change (Clocked.clock state)) state

def stall : Action σ β := do
  let (bound, halt) := (← readClock).horizon
  modifyClock (·.reach bound)
  throw halt

def pauseUntil (instant : Duration) : Action σ Unit := do
  let clock ← readClock
  if instant ≤ clock.now then return
  else if instant ≤ clock.horizon.1 then modifyClock (·.reach instant)
  else stall

def pause (span : Duration) : Action σ Unit := do
  pauseUntil ((← readClock).now + span)

def within (deadline : Duration) (action : Action σ β) : Action σ (Timely β) := do
  modifyClock fun clock => { clock with deadline := some deadline }
  let answer ← tryCatch (Timely.inTime <$> action) fun halt =>
    match halt with
    | .late => return .late
    | other => throw other
  modifyClock fun clock => { clock with deadline := none }
  return answer

/-- Runs an action that takes no more time than given, on a state whose clock goes on. -/
def runFor (span : Duration) (action : Action σ β) (state : σ) : Except Halt β × σ :=
  let clock := Clocked.clock state
  action.run.run
    (Clocked.withClock { now := clock.now, limit := clock.now + span, deadline := none } state)

end Provisioning.Rehearsal
