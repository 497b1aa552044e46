import Provisioning.Rehearsal.World

/-!
# Steps of a rehearsal

A rehearsal goes step by step: every step is an action that has a limited time, and leaves the world
in which the next one begins.
-/

namespace Provisioning.Rehearsal

variable {α β : Type} [ClusterObject α]

/-- What can be seen of a step. -/
structure Outcome (α β : Type) where
  result : Except Halt β
  /-- The calls of the step, in their order. -/
  calls : List (Call α)

/-- Runs an action as a step that takes no more time than given.  An action that is broken off leaves
no stream open, and changes that are due at the end are made. -/
def step (span : Duration) (action : Action (World α) β) (world : World α) : Outcome α β × World α :=
  let (result, reached) := runFor span action { world with calls := [], asked := [] }
  let released := match result with
    | .ok _ => reached
    | .error _ => { reached with streams := [] }
  ({ result, calls := released.calls.reverse }, released.applyDue)

def change (what : Change α) : Action (World α) Unit :=
  modify fun world => world.applyDue.apply what

def schedule (delay : Duration) (what : Change α) : Action (World α) Unit :=
  modify fun world => world.schedule delay what

def dump : Action (World α) (List α) := do
  modify World.applyDue
  return (← get).store.objects

end Provisioning.Rehearsal
