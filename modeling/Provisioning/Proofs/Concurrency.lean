import Mathlib.Algebra.BigOperators.Group.Finset.Piecewise
import Provisioning.Provision.Basic

/-!
# Programs that run at once

Any number of programs share a state.  A step answers the call that one of them has come to, or
lets the environment act on the state; nothing is said about whose turn it is, so a run stands
for any order of the calls.

A program is secure when, whatever the others have done in the meantime, none of its calls is
stuck, its own steps are such as the others put up with, and it ends as it should.  Main
statements: programs that are secure on their own are secure together (`secure_of_run`), and one
that makes at most so many calls on its own makes no more among others (`calls_of_run`).
-/

namespace Provisioning

/-- How calls are answered from a state, and how the state changes by itself. -/
structure Environment (Call : Type) (Answer : Call → Type) (σ : Type) where
  replies : σ → (request : Call) → Answer request → σ → Prop
  acts : σ → σ → Prop

/-- The programs of all callers and the state that they share. -/
structure Crowd (Caller Call : Type) (Answer : Call → Type) (α σ : Type) where
  programs : Caller → Program Call Answer α
  shared : σ

namespace Crowd

/-- What can happen in a crowd. -/
inductive Event (Caller Call : Type) (Answer : Call → Type) where
  | answered (caller : Caller) (request : Call) (answer : Answer request)
  | acted

variable {Caller Call : Type} {Answer : Call → Type} {α σ : Type}

/-- Whether an event answers a call of the caller. -/
def Event.isOf [DecidableEq Caller] (caller : Caller) : Event Caller Call Answer → Bool
  | .answered other _ _ => other = caller
  | .acted => false

/-- Whether an event is an act of the environment. -/
def Event.isAct : Event Caller Call Answer → Bool
  | .answered .. => false
  | .acted => true

section Runs

variable [DecidableEq Caller] (environment : Environment Call Answer σ)

inductive Step (crowd : Crowd Caller Call Answer α σ) :
    Event Caller Call Answer → Crowd Caller Call Answer α σ → Prop where
  | answered {caller : Caller} {request : Call} {next : Answer request → Program Call Answer α}
      {answer : Answer request} {after : σ} (calls : crowd.programs caller = .call request next)
      (given : environment.replies crowd.shared request answer after) :
      Step crowd (.answered caller request answer)
        ⟨Function.update crowd.programs caller (next answer), after⟩
  | acted {after : σ} (given : environment.acts crowd.shared after) :
      Step crowd .acted ⟨crowd.programs, after⟩

/-- What happened from the start on, the last event first. -/
inductive Run (start : Crowd Caller Call Answer α σ) :
    List (Event Caller Call Answer) → Crowd Caller Call Answer α σ → Prop where
  | start : Run start [] start
  | step {trace : List (Event Caller Call Answer)} {event : Event Caller Call Answer}
      {middle finish : Crowd Caller Call Answer α σ} (before : Run start trace middle)
      (step : Step environment middle event finish) : Run start (event :: trace) finish

end Runs

end Crowd

/-! ## Programs that rely on others -/

namespace Program

variable {Call : Type} {Answer : Call → Type} {α β σ : Type}

/-- Wherever a program is when others have changed the state as it relies on: its call is answered
or the environment can act, an answer changes the state as the others rely on, and in the end it
has reached its goal. -/
def Secure (environment : Environment Call Answer σ) (rely : σ → σ → Prop)
    (goal : σ → α → Prop) : Program Call Answer α → σ → Prop
  | .done value, state => goal state value
  | .abort _, _ => False
  | .call request next, state =>
      ∀ reached, rely state reached →
        ((∃ answer after, environment.replies reached request answer after) ∨
            ∃ after, environment.acts reached after) ∧
          ∀ answer after, environment.replies reached request answer after →
            rely reached after ∧ Secure environment rely goal (next answer) after

variable {environment : Environment Call Answer σ} {rely : σ → σ → Prop}

/-- A secure program stays secure while others go on. -/
theorem Secure.mono {goal : σ → α → Prop} {program : Program Call Answer α} {state later : σ}
    (transitive : ∀ first second third, rely first second → rely second third → rely first third)
    (stable : ∀ before after value, rely before after → goal before value → goal after value)
    (secure : Secure environment rely goal program state) (goesOn : rely state later) :
    Secure environment rely goal program later := by
  cases program with
  | done value => exact stable state later value goesOn secure
  | abort message => exact secure
  | call request next =>
      intro reached relied
      exact secure reached (transitive state later reached goesOn relied)

theorem Secure.bind {reached : σ → α → Prop} {goal : σ → β → Prop}
    {program : Program Call Answer α} {next : α → Program Call Answer β} {state : σ}
    (secure : Secure environment rely reached program state)
    (rest : ∀ value after, reached after value → Secure environment rely goal (next value) after) :
    Secure environment rely goal (program.bind next) state := by
  induction program generalizing state with
  | done value => exact rest value state secure
  | abort message => exact secure
  | call request answered inductionHypothesis =>
      intro later relied
      obtain ⟨free, given⟩ := secure later relied
      refine ⟨free, ?_⟩
      intro answer after replied
      obtain ⟨kept, secureAfter⟩ := given answer after replied
      exact ⟨kept, inductionHypothesis answer secureAfter⟩

/-- A program makes at most so many calls, whatever the answers. -/
def AtMost : Program Call Answer α → Nat → Prop
  | .done _, _ => True
  | .abort _, _ => True
  | .call _ next, calls => ∃ left, calls = left + 1 ∧ ∀ answer, AtMost (next answer) left

theorem AtMost.mono {program : Program Call Answer α} {fewer more : Nat} (le : fewer ≤ more)
    (bounded : program.AtMost fewer) : program.AtMost more := by
  induction program generalizing fewer more with
  | done value => trivial
  | abort message => trivial
  | call request next inductionHypothesis =>
      obtain ⟨left, rfl, bounded⟩ := bounded
      refine ⟨more - 1, by omega, ?_⟩
      intro answer
      exact inductionHypothesis answer (by omega) (bounded answer)

theorem AtMost.bind {program : Program Call Answer α} {next : α → Program Call Answer β}
    {first second : Nat} (front : program.AtMost first)
    (back : ∀ value, (next value).AtMost second) : (program.bind next).AtMost (first + second) := by
  induction program generalizing first with
  | done value => exact (back value).mono (Nat.le_add_left second first)
  | abort message => trivial
  | call request answered inductionHypothesis =>
      obtain ⟨left, rfl, front⟩ := front
      refine ⟨left + second, by omega, ?_⟩
      intro answer
      exact inductionHypothesis answer (front answer)

end Program

/-! ## From one program to all -/

namespace Crowd

variable {Caller Call : Type} {Answer : Call → Type} {α σ : Type} [DecidableEq Caller]
  {environment : Environment Call Answer σ} {start finish : Crowd Caller Call Answer α σ}
  {trace : List (Event Caller Call Answer)}

/-- Programs that are secure on their own are secure together: every step is one that all the others
rely on. -/
theorem secure_of_run {rely : σ → σ → Prop} {goal : Caller → σ → α → Prop}
    (reflexive : ∀ state, rely state state)
    (transitive : ∀ first second third, rely first second → rely second third → rely first third)
    (stable : ∀ caller before after value, rely before after → goal caller before value →
      goal caller after value)
    (acting : ∀ before after, rely start.shared before → environment.acts before after →
      rely before after)
    (secure : ∀ caller, (start.programs caller).Secure environment rely (goal caller) start.shared)
    (run : Run environment start trace finish) :
    rely start.shared finish.shared ∧
      ∀ caller, (finish.programs caller).Secure environment rely (goal caller) finish.shared := by
  induction run with
  | start => exact ⟨reflexive _, secure⟩
  | @step _ _ middle _ _ step inductionHypothesis =>
      obtain ⟨since, secureBefore⟩ := inductionHypothesis
      -- A program that is not at its turn only sees the state go on.
      have whileOthers : ∀ after, rely middle.shared after → ∀ caller,
          (middle.programs caller).Secure environment rely (goal caller) after := by
        intro after goesOn caller
        exact (secureBefore caller).mono transitive (stable caller) goesOn
      cases step with
      | acted given =>
          have goesOn := acting _ _ since given
          exact ⟨transitive _ _ _ since goesOn, whileOthers _ goesOn⟩
      | @answered caller request next answer after calls given =>
          have secureCaller := secureBefore caller
          rw [calls] at secureCaller
          obtain ⟨goesOn, secureNext⟩ :=
            (secureCaller middle.shared (reflexive _)).2 answer after given
          refine ⟨transitive _ _ _ since goesOn, ?_⟩
          intro other
          by_cases same : other = caller
          · subst same
            simpa only [Function.update_self] using secureNext
          · simpa only [Function.update_of_ne same] using whileOthers after goesOn other

/-- A secure program that has not ended can go on, or the environment can. -/
theorem progress_of_secure {crowd : Crowd Caller Call Answer α σ} {rely : σ → σ → Prop}
    {goal : σ → α → Prop} (reflexive : ∀ state, rely state state) {caller : Caller}
    (secure : (crowd.programs caller).Secure environment rely goal crowd.shared) :
    (∃ value, crowd.programs caller = .done value) ∨
      ∃ event after, Step environment crowd event after ∧
        (event.isOf caller = true ∨ event.isAct = true) := by
  cases program : crowd.programs caller with
  | done value => exact Or.inl ⟨value, rfl⟩
  | abort message =>
      rw [program] at secure
      exact secure.elim
  | call request next =>
      rw [program] at secure
      rcases (secure crowd.shared (reflexive _)).1 with ⟨answer, after, replied⟩ | ⟨after, acts⟩
      · exact Or.inr ⟨_, _, .answered program replied, Or.inl (by simp [Event.isOf])⟩
      · exact Or.inr ⟨_, _, .acted acts, Or.inr rfl⟩

/-- A program that makes at most so many calls on its own makes no more among others. -/
theorem calls_of_run {caller : Caller} {calls : Nat}
    (bounded : (start.programs caller).AtMost calls)
    (run : Run environment start trace finish) :
    ∃ left, (finish.programs caller).AtMost left ∧
      trace.countP (Event.isOf caller) + left ≤ calls := by
  induction run with
  | start => exact ⟨calls, bounded, by simp⟩
  | @step _ _ middle _ _ step inductionHypothesis =>
      obtain ⟨left, boundedBefore, counted⟩ := inductionHypothesis
      cases step with
      | acted given => exact ⟨left, boundedBefore, by simpa [Event.isOf] using counted⟩
      | @answered other request next answer after waiting given =>
          by_cases same : other = caller
          · subst same
            rw [waiting] at boundedBefore
            obtain ⟨fewer, rfl, boundedNext⟩ := boundedBefore
            refine ⟨fewer, ?_, ?_⟩
            · simpa only [Function.update_self] using boundedNext answer
            · rw [List.countP_cons_of_pos (by simp [Event.isOf])]
              omega
          · refine ⟨left, ?_, ?_⟩
            · simpa only [Function.update_of_ne (Ne.symm same)] using boundedBefore
            · rw [List.countP_cons_of_neg (by simp [Event.isOf, same])]
              exact counted

/-- Every event answers a call of someone or is an act. -/
theorem length_eq_sum [Fintype Caller] (trace : List (Event Caller Call Answer)) :
    trace.length =
      ∑ caller, trace.countP (Event.isOf caller) + trace.countP Event.isAct := by
  induction trace with
  | nil => simp
  | cons event trace inductionHypothesis =>
      simp only [List.length_cons, List.countP_cons, Finset.sum_add_distrib, inductionHypothesis]
      cases event with
      | answered caller request answer =>
          simp only [Event.isOf, Event.isAct, decide_eq_true_eq, Finset.sum_ite_eq,
            Finset.mem_univ, if_true, Bool.false_eq_true, if_false]
          omega
      | acted =>
          simp only [Event.isOf, Event.isAct, Bool.false_eq_true, if_false,
            Finset.sum_const_zero, if_true]
          omega

/-- If runs are no longer than a bound, and stop only where all programs are done, every run can be
continued to where they are. -/
theorem exists_run_to_end {bound : Nat}
    (short : ∀ trace crowd, Run environment start trace crowd → trace.length ≤ bound)
    (goesOn : ∀ trace crowd, Run environment start trace crowd →
      (∀ caller, ∃ value, crowd.programs caller = .done value) ∨
        ∃ event after, Step environment crowd event after)
    (run : Run environment start trace finish) :
    ∃ more crowd, Run environment start (more ++ trace) crowd ∧
      ∀ caller, ∃ value, crowd.programs caller = .done value := by
  -- By induction on the number of events that the bound still leaves room for.
  obtain ⟨left, reach⟩ : ∃ left, bound ≤ trace.length + left := ⟨bound, Nat.le_add_left _ _⟩
  induction left generalizing trace finish with
  | zero =>
      rcases goesOn trace finish run with done | ⟨event, after, step⟩
      · exact ⟨[], finish, run, done⟩
      · have tooLong := short _ _ (run.step step)
        rw [List.length_cons] at tooLong
        omega
  | succ left inductionHypothesis =>
      rcases goesOn trace finish run with done | ⟨event, after, step⟩
      · exact ⟨[], finish, run, done⟩
      · obtain ⟨more, crowd, whole, done⟩ := inductionHypothesis (run.step step) (by
          rw [List.length_cons]
          omega)
        refine ⟨more ++ [event], crowd, ?_, done⟩
        rw [List.append_assoc]
        exact whole

end Crowd

/-! ## Attempts that are secure -/

namespace Provision

variable {σ α β : Type}

/-- An attempt that succeeds with its goal reached, if it relies on others. -/
def Secures (environment : Environment CapabilityCall CapabilityCall.Answer σ)
    (rely : σ → σ → Prop) (goal : σ → α → Prop) (attempt : Attempt α) (state : σ) : Prop :=
  attempt.run.Secure environment rely
    (fun after outcome => ∃ value, outcome = .ok value ∧ goal after value) state

section Secures

variable {environment : Environment CapabilityCall CapabilityCall.Answer σ}
  {rely : σ → σ → Prop} {state : σ}

theorem secures_pure {goal : σ → α → Prop} {value : α} (reached : goal state value) :
    Secures environment rely goal (pure value) state :=
  ⟨value, rfl, reached⟩

theorem secures_orEnd {goal : σ → α → Prop} {result : Except ProvisioningError α} {value : α}
    (given : result = .ok value) (reached : goal state value) :
    Secures environment rely goal (orEnd result) state :=
  ⟨value, given, reached⟩

theorem secures_orFail {goal : σ → α → Prop} {result : Except Failure α} {value : α}
    (given : result = .ok value) (reached : goal state value) :
    Secures environment rely goal (orFail result) state := by
  subst given
  exact secures_pure reached

theorem secures_ask {request : CapabilityCall} {goal : σ → request.Answer → Prop}
    (free : ∀ reached, rely state reached →
      (∃ answer after, environment.replies reached request answer after) ∨
        ∃ after, environment.acts reached after)
    (given : ∀ reached answer after, rely state reached →
      environment.replies reached request answer after → rely reached after ∧ goal after answer) :
    Secures environment rely goal (ask request) state := by
  intro reached relied
  refine ⟨free reached relied, ?_⟩
  intro answer after replied
  obtain ⟨kept, goalReached⟩ := given reached answer after relied replied
  exact ⟨kept, answer, rfl, goalReached⟩

theorem secures_bind (between : σ → α → Prop) {goal : σ → β → Prop} {attempt : Attempt α}
    {next : α → Attempt β} (front : Secures environment rely between attempt state)
    (back : ∀ value after, between after value → Secures environment rely goal (next value) after) :
    Secures environment rely goal (attempt >>= next) state := by
  apply Program.Secure.bind front
  rintro _ after ⟨value, rfl, reached⟩
  exact back value after reached

theorem secures_orEnd_bind {goal : σ → β → Prop} {result : Except ProvisioningError α} {value : α}
    {next : α → Attempt β} (given : result = .ok value)
    (rest : Secures environment rely goal (next value) state) :
    Secures environment rely goal (orEnd result >>= next) state := by
  subst given
  exact rest

theorem secures_orFail_bind {goal : σ → β → Prop} {result : Except Failure α} {value : α}
    {next : α → Attempt β} (given : result = .ok value)
    (rest : Secures environment rely goal (next value) state) :
    Secures environment rely goal (orFail result >>= next) state := by
  subst given
  exact rest

end Secures

/-- An attempt that makes at most so many calls. -/
def CallsAtMost (attempt : Attempt α) (calls : Nat) : Prop :=
  attempt.run.AtMost calls

theorem callsAtMost_orEnd (result : Except ProvisioningError α) : CallsAtMost (orEnd result) 0 :=
  trivial

theorem callsAtMost_pure (value : α) : CallsAtMost (pure value) 0 :=
  trivial

theorem callsAtMost_throw (error : ProvisioningError) : CallsAtMost (throw error : Attempt α) 0 :=
  trivial

theorem callsAtMost_orFail (result : Except Failure α) : CallsAtMost (orFail result) 0 := by
  cases result with
  | ok value => exact callsAtMost_pure value
  | error failure => exact callsAtMost_throw _

theorem callsAtMost_ask (request : CapabilityCall) : CallsAtMost (ask request) 1 :=
  ⟨0, rfl, fun _ => trivial⟩

theorem CallsAtMost.mono {attempt : Attempt α} {fewer more : Nat}
    (bounded : CallsAtMost attempt fewer) (le : fewer ≤ more) : CallsAtMost attempt more :=
  Program.AtMost.mono le bounded

theorem CallsAtMost.bind {attempt : Attempt α} {next : α → Attempt β} {first calls : Nat}
    (front : CallsAtMost attempt first) (second : Nat)
    (back : ∀ value, CallsAtMost (next value) second) (total : first + second ≤ calls) :
    CallsAtMost (attempt >>= next) calls := by
  apply Program.AtMost.mono total
  apply Program.AtMost.bind front
  intro outcome
  cases outcome with
  | ok value => exact back value
  | error error => trivial

end Provision

end Provisioning
