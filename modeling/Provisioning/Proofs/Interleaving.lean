import Mathlib.Logic.Relation
import Provisioning.Cluster.Located
import Provisioning.Proofs.Matching
import Provisioning.Proofs.Runs

/-!
# Provisioning among others

The cluster as a call of provisioning meets it: between any two of its calls, and between any two
steps of its wait, others change the capabilities.  What they may do is a relation on stores.  Reads
answer with what is there at that instant, lists in any order; an event carries a state that the
object had at some time up to now; and every call may fail instead, a creation also after it took
effect.

Main statements: what a wait ends with was in the cluster under the key that was waited for
(`met_of_settlementWait`), and what others and creations keep is kept across a run (`Keeps.goes`).
-/

namespace Provisioning

open ClusterObject

/-- The capabilities of a cluster, now and before. -/
structure History where
  now : Store Capability
  earlier : List (Store Capability) := []

namespace History

/-- The history after a change. -/
def record (history : History) (store : Store Capability) : History :=
  ⟨store, history.now :: history.earlier⟩

/-- The capability was in the cluster, in exactly this state, at some time. -/
def Held (history : History) (capability : Capability) : Prop :=
  ∃ store ∈ history.now :: history.earlier, capability ∈ store.objects

/-- All that was ever kept under one key had the same labels. -/
def LabelsKept (history : History) : Prop :=
  ∀ left right, history.Held left → history.Held right → key left = key right →
    left.labels = right.labels

theorem held_now {history : History} {capability : Capability}
    (member : capability ∈ history.now.objects) : history.Held capability :=
  ⟨history.now, List.mem_cons_self, member⟩

theorem Held.record {history : History} {capability : Capability}
    (held : history.Held capability) (store : Store Capability) :
    (history.record store).Held capability := by
  obtain ⟨other, recorded, member⟩ := held
  exact ⟨other, List.mem_cons_of_mem store recorded, member⟩

@[simp]
theorem held_record_iff {history : History} {store : Store Capability} {capability : Capability} :
    (history.record store).Held capability ↔
      capability ∈ store.objects ∨ history.Held capability := by
  constructor
  · rintro ⟨other, recorded, member⟩
    rcases List.mem_cons.mp recorded with rfl | before
    · exact Or.inl member
    · exact Or.inr ⟨other, before, member⟩
  · rintro (member | held)
    · exact held_now member
    · exact held.record store

end History

/-- Others change the capabilities, any number of times. -/
def Passes (others : Store Capability → Store Capability → Prop) : History → History → Prop :=
  Relation.ReflTransGen fun before after =>
    ∃ store, others before.now store ∧ after = before.record store

/-- An operation of a wait on its source. -/
inductive WatchCall where
  | now
  | current (locator : Locator) (deadline : Duration)
  | subscribe (locator : Locator) (deadline : Duration)
  | next (subscription : Locator) (deadline : Duration)

abbrev WatchCall.Answer : WatchCall → Type
  | .now => Duration
  | .current .. => Timely (Except WaitError (List Capability))
  | .subscribe .. => Timely (Except WaitError Locator)
  | .next .. => Timely (Option (Except WaitError (WatchEvent Capability)))

/-- The source whose operations are calls.  A subscription is known by what it is about. -/
def watchCalls : WatchSource (Program WatchCall WatchCall.Answer) Locator Capability where
  now := Program.perform WatchCall.now
  current locator deadline := Program.perform (WatchCall.current locator deadline)
  subscribe locator deadline := Program.perform (WatchCall.subscribe locator deadline)
  next subscription deadline := Program.perform (WatchCall.next subscription deadline)

/-- The wait for a capability to be settled. -/
def settlementWait (locator : Locator) (timeout : Duration) (events : Nat) :
    Program WatchCall WatchCall.Answer (Option (Wait.End Capability)) :=
  Wait.run watchCalls (fun capability => pure capability.phase.isTerminal) locator timeout events

section Answers

variable (others : Store Capability → Store Capability → Prop)

/-- How an operation of a wait is answered. -/
def WatchAnswered (before : History) :
    (request : WatchCall) → request.Answer → History → Prop
  | .now, _, after => Passes others before after
  | .current locator _, answer, after =>
      Passes others before after ∧
        ∀ objects, answer = .inTime (.ok objects) → objects.Perm (after.now.located locator)
  | .subscribe locator _, answer, after =>
      Passes others before after ∧
        ∀ subscription, answer = .inTime (.ok subscription) → subscription = locator
  | .next subscription _, answer, after =>
      Passes others before after ∧
        ∀ event, answer = .inTime (some (.ok event)) →
          subscription.covers event.object = true ∧ after.Held event.object

/-- How a call of provisioning is answered. -/
def Answered (before : History) :
    (request : CapabilityCall) → request.Answer → History → Prop
  | .get namespaceName name, answer, after =>
      Passes others before after ∧
        ∀ found?, answer = .ok found? → found? = after.now.find? ⟨namespaceName, name⟩
  | .listIn namespaceName labels, answer, after =>
      Passes others before after ∧
        ∀ objects, answer = .ok objects →
          objects.Perm (after.now.inNamespace namespaceName labels)
  | .listAll labels, answer, after =>
      Passes others before after ∧
        ∀ objects, answer = .ok objects → objects.Perm (after.now.everywhere labels)
  | .create capability, answer, after =>
      ∃ middle, Passes others before middle ∧
        ((∃ store, middle.now.create capability = .ok store ∧ after = middle.record store) ∨
          (∃ failure, answer = .error failure ∧ after = middle))
  | .loadDefaults, _, after => Passes others before after
  | .awaitSettled namespaceName name timeout, answer, after =>
      ∃ events, (settlementWait (.named namespaceName name) timeout events).EndsWith
        (WatchAnswered others) before (some answer) after

end Answers

section Facts

variable {others : Store Capability → Store Capability → Prop} {before after : History}

/-! ## What is kept across a run -/

/-- What others do keeps a property of the cluster, and so does the creation of something new. -/
structure Keeps (others : Store Capability → Store Capability → Prop)
    (Invariant : History → Prop) : Prop where
  changed : ∀ history store, others history.now store → Invariant history →
    Invariant (history.record store)
  created : ∀ history added, history.now.find? (key added) = none → Invariant history →
    Invariant (history.record (history.now.put added))

theorem Keeps.passes {Invariant : History → Prop} (keeps : Keeps others Invariant)
    (passes : Passes others before after) (holds : Invariant before) : Invariant after := by
  induction passes with
  | refl => exact holds
  | tail _ change inductionHypothesis =>
      obtain ⟨store, acted, rfl⟩ := change
      exact keeps.changed _ store acted inductionHypothesis

theorem WatchAnswered.passes {request : WatchCall} {answer : request.Answer}
    (answered : WatchAnswered others before request answer after) : Passes others before after := by
  cases request with
  | now => exact answered
  | current locator deadline => exact answered.1
  | subscribe locator deadline => exact answered.1
  | next subscription deadline => exact answered.1

/-- A wait changes nothing itself. -/
theorem passes_of_watchRun {α : Type} {program : Program WatchCall WatchCall.Answer α} {value : α}
    (run : program.EndsWith (WatchAnswered others) before value after) :
    Passes others before after :=
  run.preserves (fun _ => .refl) (fun _ _ _ => .trans) fun _ _ _ _ answered => answered.passes

theorem Keeps.answered {Invariant : History → Prop} (keeps : Keeps others Invariant)
    {request : CapabilityCall} {answer : request.Answer}
    (answered : Answered others before request answer after) (holds : Invariant before) :
    Invariant after := by
  cases request with
  | get namespaceName name => exact keeps.passes answered.1 holds
  | listIn namespaceName labels => exact keeps.passes answered.1 holds
  | listAll labels => exact keeps.passes answered.1 holds
  | create added =>
      obtain ⟨middle, passes, outcome⟩ := answered
      have before := keeps.passes passes holds
      rcases outcome with ⟨store, created, isAfter⟩ | ⟨_, _, isAfter⟩
      · obtain ⟨free, isStore⟩ := Store.create_eq_ok_iff.mp created
        rw [isAfter, isStore]
        exact keeps.created middle added free before
      · rw [isAfter]
        exact before
  | loadDefaults => exact keeps.passes answered holds
  | awaitSettled namespaceName name timeout =>
      obtain ⟨_, run⟩ := answered
      exact keeps.passes (passes_of_watchRun run) holds

theorem Keeps.goes {Invariant : History → Prop} (keeps : Keeps others Invariant) {α : Type}
    {program left : CapabilityProgram α}
    {exchanges : List (Program.Exchange CapabilityCall CapabilityCall.Answer)}
    (goes : program.Goes (Answered others) before exchanges left after) (holds : Invariant before) :
    Invariant after :=
  goes.preserves (fun _ holds => holds) (fun _ _ _ first second holds => second (first holds))
    (fun _ _ _ _ answered holds => keeps.answered answered holds) holds

theorem Keeps.run {Invariant : History → Prop} (keeps : Keeps others Invariant) {α : Type}
    {program : CapabilityProgram α} {value : α}
    (run : program.EndsWith (Answered others) before value after) (holds : Invariant before) :
    Invariant after := by
  obtain ⟨_, goes⟩ := Program.endsWith_iff_goes.mp run
  exact keeps.goes goes holds

/-- What was in the cluster is not forgotten. -/
theorem keeps_held (capability : Capability) :
    Keeps others fun history => history.Held capability where
  changed _ store _ held := held.record store
  created _ _ _ held := held.record _

/-! ## What a wait ends with -/

/-- A condition that only looks at its object finds the first that meets it. -/
@[simp]
theorem firstMeeting_pure {m : Type → Type} [Monad m] [LawfulMonad m] {α : Type}
    (condition : α → Bool) (objects : List α) :
    Wait.firstMeeting (fun object => (pure (condition object) : m Bool)) objects =
      pure (objects.find? condition) := by
  induction objects with
  | nil => rfl
  | cons head tail inductionHypothesis =>
      rw [Wait.firstMeeting, pure_bind, List.find?_cons]
      cases condition head with
      | true => rfl
      | false => exact inductionHypothesis

private theorem not_met_of_timedOut {locator : Locator} {start : Duration} {object : Capability} :
    ¬ (some <$> Wait.timedOut watchCalls locator start).EndsWith (WatchAnswered others) before
      (some (.met object)) after := by
  intro run
  obtain ⟨_, _, _, ended⟩ := Program.endsWith_perform_bind_iff.mp run
  cases (Program.endsWith_pure_iff.mp ended).1

private theorem met_of_listen {condition : Capability → Bool} {locator : Locator}
    {start deadline : Duration} {object : Capability} {events : Nat}
    (run : (Wait.listen watchCalls (fun capability => pure (condition capability)) locator start
      deadline locator events).EndsWith (WatchAnswered others) before (some (.met object)) after) :
    condition object = true ∧ locator.covers object = true ∧ after.Held object := by
  induction events generalizing before with
  | zero => cases (Program.endsWith_pure_iff.mp run).1
  | succ events inductionHypothesis =>
      obtain ⟨answer, middle, answered, rest⟩ := Program.endsWith_perform_bind_iff.mp run
      match answer, answered, rest with
      | .late, _, rest => exact (not_met_of_timedOut rest).elim
      | .inTime none, _, rest => cases (Program.endsWith_pure_iff.mp rest).1
      | .inTime (some (.error error)), _, rest => cases (Program.endsWith_pure_iff.mp rest).1
      | .inTime (some (.ok event)), answered, rest =>
          simp only [pure_bind] at rest
          by_cases meets : condition event.object = true
          · rw [if_pos meets] at rest
            obtain ⟨equal, rfl⟩ := Program.endsWith_pure_iff.mp rest
            cases equal
            exact ⟨meets, answered.2 event rfl⟩
          -- The event is passed over, and fewer are left to look at.
          · rw [if_neg meets] at rest
            exact inductionHypothesis rest

/-- What a wait for a settled capability ends with has a terminal phase, is one that was waited for,
and was in the cluster. -/
theorem met_of_settlementWait {locator : Locator} {timeout : Duration} {events : Nat}
    {object : Capability}
    (run : (settlementWait locator timeout events).EndsWith (WatchAnswered others) before
      (some (.met object)) after) :
    object.phase.isTerminal = true ∧ locator.covers object = true ∧ after.Held object := by
  obtain ⟨start, started, _, rest⟩ := Program.endsWith_perform_bind_iff.mp run
  cases reach : Wait.deadline? start timeout with
  | none =>
      simp only [reach] at rest
      cases (Program.endsWith_pure_iff.mp rest).1
  | some deadline =>
      simp only [reach] at rest
      obtain ⟨answer, middle, answered, rest⟩ := Program.endsWith_perform_bind_iff.mp rest
      match answer, answered, rest with
      | .late, _, rest => exact (not_met_of_timedOut rest).elim
      | .inTime (.error error), _, rest => cases (Program.endsWith_pure_iff.mp rest).1
      | .inTime (.ok objects), answered, rest =>
          simp only [firstMeeting_pure, pure_bind] at rest
          cases found : objects.find? fun capability => capability.phase.isTerminal with
          | some ready =>
              simp only [found] at rest
              obtain ⟨equal, rfl⟩ := Program.endsWith_pure_iff.mp rest
              cases equal
              have listed := (answered.2 objects rfl).mem_iff.mp (List.mem_of_find?_eq_some found)
              obtain ⟨member, covered⟩ := List.mem_filter.mp listed
              have terminal : object.phase.isTerminal = true := by
                simpa using List.find?_some found
              exact ⟨terminal, covered, History.held_now member⟩
          | none =>
              simp only [found] at rest
              obtain ⟨opened, _, subscribed, rest⟩ := Program.endsWith_perform_bind_iff.mp rest
              match opened, subscribed, rest with
              | .late, _, rest => exact (not_met_of_timedOut rest).elim
              | .inTime (.error error), _, rest => cases (Program.endsWith_pure_iff.mp rest).1
              | .inTime (.ok subscription), subscribed, rest =>
                  rw [subscribed.2 subscription rfl] at rest
                  exact met_of_listen rest

end Facts

end Provisioning
