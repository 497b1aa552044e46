import Provisioning.Provision.Basic

/-!
# Runs of programs

A program runs among collaborators whose state changes while it runs.  What they may do is a
relation: from one state, a call gets an answer and leaves another state behind.  The relation is
free to let others act before the answer, so a run stands for any interleaving of the program
with them.

A run is followed call by call (`Program.Goes`): a program that has come some way has asked for some
things and was answered, and the rest of it is left.  This is said of a program that is still under
way, or that breaks off, as well as of one that has ended.  Where it matters only what a program ends
with, the calls are left out (`Program.EndsWith`, `endsWith_iff_goes`).

Main statements: a run of two programs in a row is a run of the first and, once that has ended, of the
second (`goes_bind_iff`, `endsWith_bind_iff`), and what every answer preserves, a run preserves
(`Goes.preserves`).
-/

namespace Provisioning

namespace Program

/-- A call and its answer. -/
structure Exchange (Call : Type) (Answer : Call → Type) where
  request : Call
  answer : Answer request

variable {Call : Type} {Answer : Call → Type} {σ α β : Type}

/-- A program makes some calls from one state on, and the rest of it is left in another. -/
inductive Goes (answers : σ → (request : Call) → Answer request → σ → Prop) :
    Program Call Answer α → σ → List (Exchange Call Answer) → Program Call Answer α → σ → Prop where
  | still (program : Program Call Answer α) (state : σ) : Goes answers program state [] program state
  | call {request : Call} {next : Answer request → Program Call Answer α} {answer : Answer request}
      {start middle finish : σ} {exchanges : List (Exchange Call Answer)}
      {left : Program Call Answer α} :
      answers start request answer middle →
      Goes answers (next answer) middle exchanges left finish →
      Goes answers (.call request next) start (⟨request, answer⟩ :: exchanges) left finish

/-- A program that is started in one state comes to its end with a value in another. -/
inductive EndsWith (answers : σ → (request : Call) → Answer request → σ → Prop) :
    Program Call Answer α → σ → α → σ → Prop where
  | done (value : α) (state : σ) : EndsWith answers (.done value) state value state
  | call {request : Call} {next : Answer request → Program Call Answer α}
      {answer : Answer request} {start middle finish : σ} {value : α} :
      answers start request answer middle →
      EndsWith answers (next answer) middle value finish →
      EndsWith answers (.call request next) start value finish

variable {answers : σ → (request : Call) → Answer request → σ → Prop} {start finish : σ}

/-! ## Runs, call by call -/

section Goes

variable {exchanges : List (Exchange Call Answer)} {left : Program Call Answer α}

@[simp]
theorem goes_done_iff {value : α} :
    Goes answers (.done value) start exchanges left finish ↔
      exchanges = [] ∧ left = .done value ∧ finish = start := by
  constructor
  · intro goes
    cases goes
    exact ⟨rfl, rfl, rfl⟩
  · rintro ⟨rfl, rfl, rfl⟩
    exact .still (.done value) finish

@[simp]
theorem goes_abort_iff {message : String} :
    Goes answers (.abort message) start exchanges left finish ↔
      exchanges = [] ∧ left = .abort message ∧ finish = start := by
  constructor
  · intro goes
    cases goes
    exact ⟨rfl, rfl, rfl⟩
  · rintro ⟨rfl, rfl, rfl⟩
    exact .still (.abort message) finish

theorem goes_call_iff {request : Call} {next : Answer request → Program Call Answer α} :
    Goes answers (.call request next) start exchanges left finish ↔
      (exchanges = [] ∧ left = .call request next ∧ finish = start) ∨
        ∃ answer middle rest, exchanges = ⟨request, answer⟩ :: rest ∧
          answers start request answer middle ∧
          Goes answers (next answer) middle rest left finish := by
  constructor
  · intro goes
    cases goes with
    | still => exact Or.inl ⟨rfl, rfl, rfl⟩
    | call given rest => exact Or.inr ⟨_, _, _, rfl, given, rest⟩
  · rintro (⟨rfl, rfl, rfl⟩ | ⟨answer, middle, rest, rfl, given, goes⟩)
    · exact .still (.call request next) finish
    · exact .call given goes

theorem Goes.trans {program between : Program Call Answer α} {middle : σ}
    {first second : List (Exchange Call Answer)}
    (front : Goes answers program start first between middle)
    (back : Goes answers between middle second left finish) :
    Goes answers program start (first ++ second) left finish := by
  induction front with
  | still => exact back
  | call given _ inductionHypothesis => exact .call given (inductionHypothesis back)

theorem Goes.bind {program : Program Call Answer α} {next : α → Program Call Answer β}
    (goes : Goes answers program start exchanges left finish) :
    Goes answers (program.bind next) start exchanges (left.bind next) finish := by
  induction goes with
  | still => exact .still _ _
  | call given _ inductionHypothesis => exact .call given inductionHypothesis

/-- Of two programs in a row, the first is under way, or it has ended and the second is. -/
theorem goes_bind_iff {program : Program Call Answer α} {next : α → Program Call Answer β}
    {remaining : Program Call Answer β} :
    Goes answers (program.bind next) start exchanges remaining finish ↔
      (∃ left, Goes answers program start exchanges left finish ∧ remaining = left.bind next) ∨
        ∃ value middle front back, exchanges = front ++ back ∧
          Goes answers program start front (.done value) middle ∧
          Goes answers (next value) middle back remaining finish := by
  constructor
  · intro goes
    induction program generalizing start exchanges with
    | done value => exact Or.inr ⟨value, start, [], exchanges, rfl, .still _ _, goes⟩
    | abort message =>
        obtain ⟨rfl, rfl, rfl⟩ := goes_abort_iff.mp goes
        exact Or.inl ⟨.abort message, .still _ _, rfl⟩
    | call request answered inductionHypothesis =>
        rcases goes_call_iff.mp goes with ⟨rfl, rfl, rfl⟩ | ⟨answer, _, _, rfl, given, goesOn⟩
        · exact Or.inl ⟨.call request answered, .still _ _, rfl⟩
        · rcases inductionHypothesis answer goesOn with
            ⟨left, reached, rfl⟩ | ⟨value, between, front, back, rfl, ended, reached⟩
          · exact Or.inl ⟨left, .call given reached, rfl⟩
          · exact Or.inr ⟨value, between, _ :: front, back, rfl, .call given ended, reached⟩
  · rintro (⟨left, goes, rfl⟩ | ⟨value, between, front, back, rfl, ended, goes⟩)
    · exact goes.bind
    · exact ended.bind.trans goes

theorem Goes.mono {more : σ → (request : Call) → Answer request → σ → Prop}
    {program : Program Call Answer α}
    (given : ∀ {before after : σ} {request : Call} {answer : Answer request},
      answers before request answer after → more before request answer after)
    (goes : Goes answers program start exchanges left finish) :
    Goes more program start exchanges left finish := by
  induction goes with
  | still => exact .still _ _
  | call answered _ inductionHypothesis => exact .call (given answered) inductionHypothesis

/-- What holds across every answer, holds across a run. -/
theorem Goes.preserves {program : Program Call Answer α}
    (goes : Goes answers program start exchanges left finish) {Related : σ → σ → Prop}
    (reflexive : ∀ state, Related state state)
    (transitive : ∀ first second third, Related first second → Related second third →
      Related first third)
    (answered : ∀ before request answer after, answers before request answer after →
      Related before after) :
    Related start finish := by
  induction goes with
  | still program state => exact reflexive state
  | call given _ inductionHypothesis =>
      exact transitive _ _ _ (answered _ _ _ _ given) inductionHypothesis

end Goes

/-! ## Runs to their ends -/

section EndsWith

/-- A program comes to its end by some calls. -/
theorem endsWith_iff_goes {program : Program Call Answer α} {value : α} :
    EndsWith answers program start value finish ↔
      ∃ exchanges, Goes answers program start exchanges (.done value) finish := by
  constructor
  · intro run
    induction run with
    | done value state => exact ⟨[], .still _ _⟩
    | call given _ inductionHypothesis =>
        obtain ⟨exchanges, goes⟩ := inductionHypothesis
        exact ⟨_ :: exchanges, .call given goes⟩
  · rintro ⟨exchanges, goes⟩
    generalize isDone : Program.done value = left at goes
    induction goes with
    | still =>
        subst isDone
        exact .done _ _
    | call given _ inductionHypothesis => exact .call given (inductionHypothesis isDone)

@[simp]
theorem endsWith_done_iff {value result : α} :
    EndsWith answers (.done value) start result finish ↔ result = value ∧ finish = start := by
  simp [endsWith_iff_goes]

@[simp]
theorem endsWith_call_iff {request : Call} {next : Answer request → Program Call Answer α}
    {value : α} :
    EndsWith answers (.call request next) start value finish ↔
      ∃ answer middle, answers start request answer middle ∧
        EndsWith answers (next answer) middle value finish := by
  simp only [endsWith_iff_goes, goes_call_iff]
  constructor
  · rintro ⟨_, ⟨_, isCall, _⟩ | ⟨answer, middle, rest, _, given, goes⟩⟩
    · cases isCall
    · exact ⟨answer, middle, given, rest, goes⟩
  · rintro ⟨answer, middle, given, rest, goes⟩
    exact ⟨_, Or.inr ⟨answer, middle, rest, rfl, given, goes⟩⟩

theorem endsWith_bind_iff {program : Program Call Answer α}
    {next : α → Program Call Answer β} {value : β} :
    EndsWith answers (program.bind next) start value finish ↔
      ∃ between middle, EndsWith answers program start between middle ∧
        EndsWith answers (next between) middle value finish := by
  simp only [endsWith_iff_goes, goes_bind_iff]
  constructor
  · rintro ⟨exchanges, ⟨left, goes, isLeft⟩ | ⟨between, middle, front, back, _, first, second⟩⟩
    -- What is left of the first program has ended too, and nothing is left to do for the second.
    · cases left with
      | done between => exact ⟨between, finish, ⟨_, goes⟩, [], isLeft ▸ .still _ _⟩
      | abort message => cases isLeft
      | call request rest => cases isLeft
    · exact ⟨between, middle, ⟨front, first⟩, back, second⟩
  · rintro ⟨between, middle, ⟨front, first⟩, back, second⟩
    exact ⟨_, Or.inr ⟨between, middle, front, back, rfl, first, second⟩⟩

@[simp]
theorem endsWith_pure_iff {value result : α} :
    EndsWith answers (pure value) start result finish ↔ result = value ∧ finish = start :=
  endsWith_done_iff

@[simp]
theorem endsWith_perform_bind_iff {request : Call} {next : Answer request → Program Call Answer α}
    {value : α} :
    EndsWith answers (perform request >>= next) start value finish ↔
      ∃ answer middle, answers start request answer middle ∧
        EndsWith answers (next answer) middle value finish :=
  endsWith_call_iff

theorem EndsWith.preserves {program : Program Call Answer α} {value : α}
    (run : EndsWith answers program start value finish) {Related : σ → σ → Prop}
    (reflexive : ∀ state, Related state state)
    (transitive : ∀ first second third, Related first second → Related second third →
      Related first third)
    (answered : ∀ before request answer after, answers before request answer after →
      Related before after) :
    Related start finish := by
  obtain ⟨_, goes⟩ := endsWith_iff_goes.mp run
  exact goes.preserves reflexive transitive answered

end EndsWith

/-! ## Only one run -/

section OnlyRun

variable {exchanges others : List (Exchange Call Answer)} {value : α}

/-- A program makes these exchanges and ends with this value, and however far it has come, it is on
the way there. -/
structure OnlyRun (answers : σ → (request : Call) → Answer request → σ → Prop)
    (program : Program Call Answer α) (start : σ) (exchanges : List (Exchange Call Answer))
    (value : α) (finish : σ) : Prop where
  goes : program.Goes answers start exchanges (.done value) finish
  only : ∀ others left middle, program.Goes answers start others left middle →
    ∃ rest, exchanges = others ++ rest ∧ left.Goes answers middle rest (.done value) finish

/-- Where every call has one answer, there is no other run than the one that comes to the end. -/
theorem OnlyRun.of_goes {program : Program Call Answer α}
    (decided : ∀ {state request answer after other later}, answers state request answer after →
      answers state request other later → other = answer ∧ later = after)
    (goes : program.Goes answers start exchanges (.done value) finish) :
    program.OnlyRun answers start exchanges value finish := by
  refine ⟨goes, fun others left middle partly => ?_⟩
  induction partly generalizing exchanges with
  | still => exact ⟨exchanges, rfl, goes⟩
  | call given _ inductionHypothesis =>
      rcases goes_call_iff.mp goes with ⟨_, isCall, _⟩ | ⟨answer, after, others, rfl, also, goesOn⟩
      · cases isCall
      · obtain ⟨rfl, rfl⟩ := decided given also
        obtain ⟨rest, rfl, toTheEnd⟩ := inductionHypothesis goesOn
        exact ⟨rest, rfl, toTheEnd⟩

theorem OnlyRun.unique {program : Program Call Answer α} {other : α} {otherFinish : σ}
    (run : program.OnlyRun answers start exchanges value finish)
    (otherRun : program.OnlyRun answers start others other otherFinish) :
    others = exchanges ∧ other = value ∧ otherFinish = finish := by
  obtain ⟨rest, isRest, toTheEnd⟩ := run.only _ _ _ otherRun.goes
  obtain ⟨rfl, isDone, isFinish⟩ := goes_done_iff.mp toTheEnd
  rw [List.append_nil] at isRest
  cases isDone
  exact ⟨isRest.symm, rfl, isFinish.symm⟩

end OnlyRun

end Program

end Provisioning
