import Provisioning.Proofs.NamespaceView
import Provisioning.Rehearsal.Watch

/-!
# Two runs side by side

An action is run on two rehearsed clusters that look alike from a namespace.  What is shown of both
runs together is that they end alike, and leave clusters that look alike again, with the same calls
made on them (`Meets`, `Coupled`).  Calls are followed here, waits in the next module.
-/

namespace Provisioning.Rehearsal

open ClusterObject

/-! ## Actions on a state -/

section Runs

variable {σ β γ : Type}

theorem run_bind (action : Action σ β) (next : β → Action σ γ) (state : σ) :
    (action >>= next).run.run state =
      match action.run.run state with
      | (.ok value, after) => (next value).run.run after
      | (.error halt, after) => (.error halt, after) := by
  have unfolded : (action >>= next).run.run state =
      (ExceptT.bindCont next (action.run.run state).1).run (action.run.run state).2 := rfl
  rw [unfolded]
  match action.run.run state with
  | (.ok value, after) => rfl
  | (.error halt, after) => rfl

@[simp]
theorem run_get_bind (next : σ → Action σ β) (state : σ) :
    (get >>= next).run.run state = (next state).run.run state :=
  rfl

@[simp]
theorem run_modify_bind (change : σ → σ) (next : Unit → Action σ β) (state : σ) :
    (modify change >>= next).run.run state = (next ()).run.run (change state) :=
  rfl

@[simp]
theorem run_map (image : β → γ) (action : Action σ β) (state : σ) :
    (image <$> action).run.run state =
      match action.run.run state with
      | (.ok value, after) => (.ok (image value), after)
      | (.error halt, after) => (.error halt, after) := by
  rw [map_eq_pure_bind, run_bind]
  rfl

@[simp]
theorem run_tryCatch (action : Action σ β) (handler : Halt → Action σ β) (state : σ) :
    (tryCatch action handler).run.run state =
      match action.run.run state with
      | (.ok value, after) => (.ok value, after)
      | (.error halt, after) => (handler halt).run.run after := by
  have unfolded : tryCatch action handler = ExceptT.tryCatch action handler := rfl
  have same : StateT.run action state = action.run.run state := rfl
  rw [unfolded, ExceptT.tryCatch, ExceptT.run_mk, StateT.run_bind, same]
  match action.run.run state with
  | (.ok value, after) => rfl
  | (.error halt, after) => rfl

variable [Clocked σ]

@[simp]
theorem run_stall (state : σ) :
    (stall : Action σ β).run.run state =
      (.error (Clocked.clock state).horizon.2,
        Clocked.withClock ((Clocked.clock state).reach (Clocked.clock state).horizon.1) state) :=
  rfl

theorem run_pauseUntil (instant : Duration) (state : σ) :
    (pauseUntil instant : Action σ Unit).run.run state =
      if instant ≤ (Clocked.clock state).now then (.ok (), state)
      else if instant ≤ (Clocked.clock state).horizon.1 then
        (.ok (), Clocked.withClock ((Clocked.clock state).reach instant) state)
      else (stall : Action σ Unit).run.run state := by
  have unfolded : (pauseUntil instant : Action σ Unit).run.run state =
      ((if instant ≤ (Clocked.clock state).now then pure ()
        else if instant ≤ (Clocked.clock state).horizon.1 then modifyClock (·.reach instant)
        else stall : Action σ Unit)).run.run state := rfl
  rw [unfolded]
  by_cases past : instant ≤ (Clocked.clock state).now
  · simp only [if_pos past]
    rfl
  · by_cases reached : instant ≤ (Clocked.clock state).horizon.1
    · simp only [if_neg past, if_pos reached]
      rfl
    · simp only [if_neg past, if_neg reached]

private theorem run_within (deadline : Duration) (action : Action σ β) (state : σ) :
    (within deadline action).run.run state =
      match action.run.run (Clocked.withClock
        { Clocked.clock state with deadline := some deadline } state) with
      | (.ok value, after) =>
          (.ok (.inTime value), Clocked.withClock
            { Clocked.clock after with deadline := none } after)
      | (.error .late, after) =>
          (.ok .late, Clocked.withClock { Clocked.clock after with deadline := none } after)
      | (.error halt, after) => (.error halt, after) := by
  rw [within, modifyClock, run_modify_bind, run_bind, run_tryCatch, run_map]
  match action.run.run (Clocked.withClock
    { Clocked.clock state with deadline := some deadline } state) with
  | (.ok value, after) => rfl
  | (.error .late, after) => rfl
  | (.error .cancelled, after) => rfl
  | (.error (.panicked message), after) => rfl

end Runs

/-- Two actions end alike: with values that are related, in states that are, or for the same reason. -/
def Meets {σ β γ : Type} (stops : σ → σ → Prop) (related : β → γ → σ → σ → Prop)
    (left : Action σ β) (right : Action σ γ) (one other : σ) : Prop :=
  match left.run.run one, right.run.run other with
  | (.ok value, after), (.ok otherValue, otherAfter) => related value otherValue after otherAfter
  | (.error halt, after), (.error otherHalt, otherAfter) => halt = otherHalt ∧ stops after otherAfter
  | _, _ => False

namespace Meets

variable {σ β γ δ ε : Type} {stops more : σ → σ → Prop} {related goal : β → γ → σ → σ → Prop}
  {reached : δ → ε → σ → σ → Prop} {left : Action σ β} {right : Action σ γ} {one other : σ}

theorem of_ok {value : β} {otherValue : γ} {after otherAfter : σ}
    (ends : left.run.run one = (.ok value, after))
    (otherEnds : right.run.run other = (.ok otherValue, otherAfter))
    (holds : related value otherValue after otherAfter) :
    Meets stops related left right one other := by
  rw [Meets, ends, otherEnds]
  exact holds

theorem of_error {halt : Halt} {after otherAfter : σ}
    (ends : left.run.run one = (.error halt, after))
    (otherEnds : right.run.run other = (.error halt, otherAfter)) (holds : stops after otherAfter) :
    Meets stops related left right one other := by
  rw [Meets, ends, otherEnds]
  exact ⟨rfl, holds⟩

/-- What is known of two actions that end alike. -/
theorem cases (meets : Meets stops related left right one other) :
    (∃ value otherValue after otherAfter, left.run.run one = (.ok value, after) ∧
        right.run.run other = (.ok otherValue, otherAfter) ∧
        related value otherValue after otherAfter) ∨
      ∃ halt after otherAfter, left.run.run one = (.error halt, after) ∧
        right.run.run other = (.error halt, otherAfter) ∧ stops after otherAfter := by
  unfold Meets at meets
  match ends : left.run.run one, otherEnds : right.run.run other, meets with
  | (.ok value, after), (.ok otherValue, otherAfter), holds =>
      exact Or.inl ⟨_, _, _, _, rfl, rfl, holds⟩
  | (.error halt, after), (.error _, otherAfter), ⟨rfl, holds⟩ =>
      exact Or.inr ⟨_, _, _, rfl, rfl, holds⟩

theorem of_run_eq {one' other' : σ} {left' : Action σ β} {right' : Action σ γ}
    (meets : Meets stops related left' right' one' other')
    (same : left.run.run one = left'.run.run one')
    (sameRight : right.run.run other = right'.run.run other') :
    Meets stops related left right one other := by
  unfold Meets at meets ⊢
  rw [same, sameRight]
  exact meets

theorem bind {next : β → Action σ δ} {otherNext : γ → Action σ ε}
    (first : Meets stops related left right one other)
    (rest : ∀ {value otherValue after otherAfter}, left.run.run one = (.ok value, after) →
      right.run.run other = (.ok otherValue, otherAfter) →
      related value otherValue after otherAfter →
      Meets stops reached (next value) (otherNext otherValue) after otherAfter) :
    Meets stops reached (left >>= next) (right >>= otherNext) one other := by
  rcases first.cases with
    ⟨value, otherValue, after, otherAfter, ends, otherEnds, holds⟩ |
      ⟨halt, after, otherAfter, ends, otherEnds, holds⟩
  · have goesOn := rest ends otherEnds holds
    unfold Meets at goesOn ⊢
    rw [run_bind, run_bind, ends, otherEnds]
    exact goesOn
  · exact .of_error (by rw [run_bind, ends]) (by rw [run_bind, otherEnds]) holds

theorem mono (stopped : ∀ after otherAfter, stops after otherAfter → more after otherAfter)
    (reaches : ∀ value otherValue after otherAfter, related value otherValue after otherAfter →
      goal value otherValue after otherAfter)
    (meets : Meets stops related left right one other) :
    Meets more goal left right one other := by
  rcases meets.cases with
    ⟨value, otherValue, after, otherAfter, ends, otherEnds, holds⟩ |
      ⟨halt, after, otherAfter, ends, otherEnds, holds⟩
  · exact .of_ok ends otherEnds (reaches _ _ _ _ holds)
  · exact .of_error ends otherEnds (stopped _ _ holds)

end Meets

/-! ## Calls on two clusters -/

variable {α β γ : Type} [ClusterObject α]

namespace Call

/-- A call names the namespace, or asks for the operator's defaults. -/
def NamesOnly (namespaceName : String) : Call α → Prop
  | .get asked _ => asked = namespaceName
  | .listIn asked _ => asked = namespaceName
  | .listAll _ => False
  | .create object => (key object).namespaceName = namespaceName
  | .loadDefaults => True
  | .discover asked _ => asked = namespaceName
  | .current locator => locator.namespaceName = namespaceName
  | .subscribe locator => locator.namespaceName = namespaceName
  | .list asked _ => asked = namespaceName
  | .delete asked _ => asked = namespaceName

/-- The object that a call is meant to create. -/
def created? : Call α → Option α
  | .create object => some object
  | _ => none

end Call

/-- The objects that calls were meant to create. -/
def creations (calls : List (Call α)) : List α :=
  calls.filterMap Call.created?

/-- Two clusters look alike from a namespace, and the same calls were made on them: each names only
the namespace, and at most so many more creations make one in all.  No more changes than given are
still to come. -/
structure Coupled (namespaceName : String) (more room roomRight : Nat) (left right : World α) :
    Prop where
  alike : left.LooksAlike namespaceName right
  calls : left.calls = right.calls
  inside : ∀ call ∈ left.calls, call.NamesOnly namespaceName
  few : (creations left.calls).length + more ≤ 1
  pending : left.pending.length ≤ room
  pendingRight : right.pending.length ≤ roomRight

section Calls

variable {namespaceName : String} {before more room roomRight : Nat} {one other : World α}

private theorem rel_head? {β γ : Type} {related : β → γ → Prop} {left : List (Option β)}
    {right : List (Option γ)} (all : List.Forall₂ (Option.Rel related) left right) :
    Option.Rel related left.head?.join right.head?.join := by
  cases all with
  | nil => exact .none
  | cons first _ =>
      cases first with
      | none => exact .none
      | some same => exact .some same

/-- A change leaves all but the objects and the streams as it is. -/
theorem apply_eq (world : World α) (change : Change α) :
    ∃ store streams, world.apply change = { world with store, streams } := by
  cases change with
  | put object => exact ⟨_, _, rfl⟩
  | revise wanted revision =>
      simp only [World.apply]
      cases world.store.find? wanted with
      | none => exact ⟨_, _, rfl⟩
      | some object => exact ⟨_, _, rfl⟩
  | remove wanted =>
      simp only [World.apply]
      cases world.store.find? wanted with
      | none => exact ⟨_, _, rfl⟩
      | some object => exact ⟨_, _, rfl⟩
  | breakStreams message => exact ⟨_, _, rfl⟩
  | endStreams => exact ⟨_, _, rfl⟩

private theorem apply_all_eq (changes : List (Change α)) (world : World α) :
    ∃ store streams, changes.foldl World.apply world = { world with store, streams } := by
  induction changes generalizing world with
  | nil => exact ⟨_, _, rfl⟩
  | cons change rest inductionHypothesis =>
      obtain ⟨_, _, first⟩ := apply_eq world change
      obtain ⟨store, streams, others⟩ := inductionHypothesis (world.apply change)
      rw [List.foldl_cons, others, first]
      exact ⟨store, streams, rfl⟩

theorem applyDue_eq (world : World α) :
    ∃ store streams, world.applyDue =
      { world with
        store
        streams
        pending := world.pending.dropWhile fun change => change.1 ≤ world.now } := by
  simp only [World.applyDue, ← List.foldl_map (f := Prod.snd) (g := World.apply)]
  obtain ⟨store, streams, same⟩ := apply_all_eq
    ((world.pending.takeWhile fun change => change.1 ≤ world.now).map Prod.snd)
    { world with pending := world.pending.dropWhile fun change => change.1 ≤ world.now }
  exact ⟨store, streams, same⟩

@[simp]
theorem pending_applyDue (world : World α) :
    world.applyDue.pending = world.pending.dropWhile fun change => change.1 ≤ world.now := by
  obtain ⟨_, _, same⟩ := applyDue_eq world
  rw [same]

theorem length_pending_applyDue_le (world : World α) :
    world.applyDue.pending.length ≤ world.pending.length := by
  simpa using (List.dropWhile_sublist _).length_le

@[simp]
theorem calls_applyDue (world : World α) : world.applyDue.calls = world.calls := by
  obtain ⟨_, _, same⟩ := applyDue_eq world
  rw [same]

@[simp]
theorem now_applyDue (world : World α) : world.applyDue.now = world.now := by
  obtain ⟨_, _, same⟩ := applyDue_eq world
  rw [same]

@[simp]
theorem pending_apply_all (changes : List (Change α)) (world : World α) :
    (changes.foldl World.apply world).pending = world.pending := by
  obtain ⟨_, _, same⟩ := apply_all_eq changes world
  rw [same]

@[simp]
theorem calls_apply_all (changes : List (Change α)) (world : World α) :
    (changes.foldl World.apply world).calls = world.calls := by
  obtain ⟨_, _, same⟩ := apply_all_eq changes world
  rw [same]

namespace Coupled

theorem applyDue (coupled : Coupled namespaceName more room roomRight one other) :
    Coupled namespaceName more room roomRight one.applyDue other.applyDue where
  alike := coupled.alike.applyDue
  calls := by simp [coupled.calls]
  inside := by
    simpa using coupled.inside
  few := by
    simpa using coupled.few
  pending := Nat.le_trans (length_pending_applyDue_le one) coupled.pending
  pendingRight := Nat.le_trans (length_pending_applyDue_le other) coupled.pendingRight

theorem apply_all (coupled : Coupled namespaceName more room roomRight one other)
    {changes others : List (Change α)}
    (woven : Woven (Change.Own namespaceName) (Change.Foreign namespaceName) changes others) :
    Coupled namespaceName more room roomRight (changes.foldl World.apply one)
      (others.foldl World.apply other) where
  alike := coupled.alike.apply_all woven
  calls := by simp [coupled.calls]
  inside := by
    simpa using coupled.inside
  few := by
    simpa using coupled.few
  pending := by
    simpa using coupled.pending
  pendingRight := by
    simpa using coupled.pendingRight

theorem withClock (coupled : Coupled namespaceName more room roomRight one other) (clock : Clock) :
    Coupled namespaceName more room roomRight (Clocked.withClock clock one)
      (Clocked.withClock clock other) :=
  { coupled with alike := { coupled.alike with clock := rfl } }

/-- A call is noted on both clusters. -/
theorem note (coupled : Coupled namespaceName before room roomRight one other) {call : Call α}
    (inside : call.NamesOnly namespaceName)
    (budget : call.created?.toList.length + more ≤ before) :
    Coupled namespaceName more room roomRight { one with calls := call :: one.calls }
      { other with calls := call :: other.calls } where
  alike := { coupled.alike with }
  calls := congrArg (call :: ·) coupled.calls
  inside named member := by
    rcases List.mem_cons.mp member with rfl | inCalls
    · exact inside
    · exact coupled.inside named inCalls
  few := by
    have few := coupled.few
    cases isCreated : call.created? with
    | none =>
        rw [isCreated, Option.toList_none, List.length_nil] at budget
        rw [creations, List.filterMap_cons_none isCreated]
        simp only [creations] at few
        omega
    | some object =>
        rw [isCreated, Option.toList_some, List.length_singleton] at budget
        rw [creations, List.filterMap_cons_some isCreated, List.length_cons]
        simp only [creations] at few
        omega
  pending := coupled.pending
  pendingRight := coupled.pendingRight

/-- The next faults of a kind are alike, and so are those that are left. -/
theorem takeFault (coupled : Coupled namespaceName more room roomRight one other)
    (kind : CallKind) :
    Meets (Coupled namespaceName more room roomRight)
      (fun fault? otherFault? after otherAfter =>
        Option.Rel (Fault.LooksAlike namespaceName) fault? otherFault? ∧
          Coupled namespaceName more room roomRight after otherAfter)
      (Rehearsal.takeFault kind) (Rehearsal.takeFault kind) one other := by
  refine .of_ok rfl rfl ⟨?_, { coupled with alike := { coupled.alike with faults := ?_ } }⟩
  · exact rel_head? (coupled.alike.faults kind)
  · intro asked
    by_cases isKind : asked = kind
    · simp only [if_pos isKind]
      rw [← List.drop_one, ← List.drop_one]
      exact List.forall₂_drop 1 (coupled.alike.faults asked)
    · simp only [if_neg isKind]
      exact coupled.alike.faults asked

end Coupled

/-! ## Time on two clusters -/

theorem clock_eq (coupled : Coupled namespaceName more room roomRight one other) :
    Clocked.clock other = Clocked.clock one :=
  coupled.alike.clock.symm

private theorem meets_modify {change otherChange : World α → World α}
    (coupled : Coupled namespaceName more room roomRight (change one) (otherChange other)) :
    Meets (Coupled namespaceName more room roomRight)
      (fun _ _ after otherAfter => Coupled namespaceName more room roomRight after otherAfter)
      (modify change) (modify otherChange) one other :=
  coupled

theorem meets_stall (coupled : Coupled namespaceName more room roomRight one other)
    {related : β → γ → World α → World α → Prop} :
    Meets (Coupled namespaceName more room roomRight) related stall stall one other := by
  refine .of_error (run_stall one) ?_ (coupled.withClock _)
  simp [clock_eq coupled]

private theorem meets_pauseUntil (coupled : Coupled namespaceName more room roomRight one other)
    (instant : Duration) :
    Meets (Coupled namespaceName more room roomRight)
      (fun _ _ after otherAfter => Coupled namespaceName more room roomRight after otherAfter)
      (pauseUntil instant) (pauseUntil instant) one other := by
  have ends := run_pauseUntil instant one
  have otherEnds := run_pauseUntil instant other
  rw [clock_eq coupled] at otherEnds
  by_cases past : instant ≤ (Clocked.clock one).now
  · rw [if_pos past] at ends otherEnds
    exact .of_ok ends otherEnds coupled
  · rw [if_neg past] at ends otherEnds
    by_cases reached : instant ≤ (Clocked.clock one).horizon.1
    · rw [if_pos reached] at ends otherEnds
      exact .of_ok ends otherEnds (coupled.withClock _)
    · rw [if_neg reached] at ends otherEnds
      rw [run_stall] at ends
      rw [run_stall, clock_eq coupled] at otherEnds
      exact .of_error ends otherEnds (coupled.withClock _)

private theorem meets_pause (coupled : Coupled namespaceName more room roomRight one other)
    (span : Duration) :
    Meets (Coupled namespaceName more room roomRight)
      (fun _ _ after otherAfter => Coupled namespaceName more room roomRight after otherAfter)
      (pause span) (pause span) one other := by
  have begins : ∀ world : World α, (pause span : Action (World α) Unit).run.run world =
      (pauseUntil ((Clocked.clock world).now + span) : Action (World α) Unit).run.run world :=
    fun _ => rfl
  refine (meets_pauseUntil coupled ((Clocked.clock one).now + span)).of_run_eq (begins one) ?_
  rw [begins, clock_eq coupled]

/-- Two bounded operations are both answered in time, or both not. -/
inductive BothTimely (related : β → β → World α → World α → Prop)
    (late : World α → World α → Prop) : Timely β → Timely β → World α → World α → Prop where
  | inTime {value otherValue : β} {after otherAfter : World α}
      (holds : related value otherValue after otherAfter) :
      BothTimely related late (.inTime value) (.inTime otherValue) after otherAfter
  | late {after otherAfter : World α} (holds : late after otherAfter) :
      BothTimely related late .late .late after otherAfter

/-- An operation with a deadline, on both clusters. -/
theorem meets_within {related : β → β → World α → World α → Prop} {left right : Action (World α) β}
    (coupled : Coupled namespaceName more room roomRight one other) (deadline : Duration)
    (meets : ∀ clock, Meets (Coupled namespaceName more room roomRight) related left right
      (Clocked.withClock clock one) (Clocked.withClock clock other))
    (timeless : ∀ {value otherValue after otherAfter} (clock : Clock),
      related value otherValue after otherAfter → Clocked.clock otherAfter = Clocked.clock after ∧
        related value otherValue (Clocked.withClock clock after)
          (Clocked.withClock clock otherAfter)) :
    Meets (Coupled namespaceName more room roomRight)
      (BothTimely related (Coupled namespaceName more room roomRight))
      (within deadline left) (within deadline right) one other := by
  have ends := run_within deadline left one
  have otherEnds := run_within deadline right other
  rw [clock_eq coupled] at otherEnds
  rcases (meets { Clocked.clock one with deadline := some deadline }).cases with
    ⟨value, otherValue, after, otherAfter, inner, otherInner, holds⟩ |
      ⟨halt, after, otherAfter, inner, otherInner, stopped⟩
  · rw [inner] at ends
    rw [otherInner] at otherEnds
    obtain ⟨sameClock, kept⟩ := timeless { Clocked.clock after with deadline := none } holds
    simp only [sameClock] at otherEnds
    exact .of_ok ends otherEnds (.inTime kept)
  · rw [inner] at ends
    rw [otherInner] at otherEnds
    cases halt with
    | late =>
        simp only [clock_eq stopped] at otherEnds
        exact .of_ok ends otherEnds (.late (stopped.withClock _))
    | cancelled => exact .of_error ends otherEnds stopped
    | panicked message => exact .of_error ends otherEnds stopped

/-! ## Collaboration on two clusters -/

/-- A call is noted, its fault happens on both clusters, and the work is done on both. -/
theorem meets_collaborate {call : Call α}
    {work otherWork : Action (World α) (Except call.kind.Trouble β)}
    {related : Except call.kind.Trouble β → Except call.kind.Trouble β → World α → World α → Prop}
    (coupled : Coupled namespaceName before room roomRight one other)
    (inside : call.NamesOnly namespaceName)
    (budget : call.created?.toList.length + more ≤ before)
    (troubled : ∀ {trouble after otherAfter},
      Coupled namespaceName more room roomRight after otherAfter →
        related (.error trouble) (.error trouble) after otherAfter)
    (worked : ∀ {one other : World α}, Coupled namespaceName more room roomRight one other →
      Meets (Coupled namespaceName more room roomRight) related work otherWork one other) :
    Meets (Coupled namespaceName more room roomRight) related (collaborate call work)
      (collaborate call otherWork) one other := by
  have noted : Coupled namespaceName more room roomRight _ _ := coupled.note inside budget
  unfold collaborate
  refine (meets_modify noted).bind ?_
  intro _ _ _ _ _ _ coupled
  refine (coupled.takeFault call.kind).bind ?_
  rintro fault? otherFault? _ _ _ _ ⟨sameFault, coupled⟩
  cases sameFault with
  | none =>
      refine (meets_modify coupled.applyDue).bind ?_
      intro _ _ _ _ _ _ coupled
      exact worked coupled
  | @some fault otherFault same =>
      have prepared : ∀ {one other : World α},
          Coupled namespaceName more room roomRight one other →
          Coupled namespaceName more room roomRight
            (fault.before.foldl World.apply one.applyDue)
            (otherFault.before.foldl World.apply other.applyDue) :=
        fun coupled => coupled.applyDue.apply_all same.before
      simp only
      rw [← same.delay, ← same.stalls, ← same.trouble]
      refine (meets_pause coupled fault.delay).bind ?_
      intro _ _ _ _ _ _ coupled
      cases fault.stalls with
      | true =>
          have stalled : Meets (Coupled namespaceName more room roomRight)
              (fun (_ _ : Unit) (_ _ : World α) => False) stall stall _ _ := meets_stall coupled
          exact stalled.bind fun _ _ never => never.elim
      | false =>
          refine (meets_modify (prepared coupled)).bind ?_
          intro _ _ _ _ _ _ coupled
          cases fault.trouble with
          | some trouble => exact troubled coupled
          | none => exact worked coupled

theorem meets_read {call : Call α}
    {work otherWork : Action (World α) (Except call.kind.Trouble β)}
    {related : Except call.kind.Trouble β → Except call.kind.Trouble β → World α → World α → Prop}
    (coupled : Coupled namespaceName more room roomRight one other)
    (inside : call.NamesOnly namespaceName) (reads : call.created? = none)
    (troubled : ∀ {trouble after otherAfter},
      Coupled namespaceName more room roomRight after otherAfter →
        related (.error trouble) (.error trouble) after otherAfter)
    (worked : ∀ {one other : World α}, Coupled namespaceName more room roomRight one other →
      Meets (Coupled namespaceName more room roomRight) related work otherWork one other) :
    Meets (Coupled namespaceName more room roomRight) related (collaborate call work)
      (collaborate call otherWork) one other := by
  have budget : call.created?.toList.length + more ≤ more := by simp [reads]
  exact meets_collaborate coupled inside budget troubled worked

end Calls

end Provisioning.Rehearsal
