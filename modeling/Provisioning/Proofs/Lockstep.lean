import Mathlib.Data.List.Forall2
import Provisioning.Proofs.Exchanges

/-!
# Two programs in step

Two programs keep step if, as long as they are answered alike, the one asks what the other asks, and
ends as the other ends.  What is alike, among requests, answers and ends, is left open.

Main statements: `InStep.bind` for programs one after the other, and `InStep.of_goes`, on what two
programs have asked for and what is left of them.
-/

namespace Provisioning

namespace Program

variable {Call : Type} {Answer : Call → Type} {σ τ α β γ δ : Type}

/-- Where a program stands. -/
inductive Standing (Call α : Type) where
  | ended (value : α)
  | broken (message : String)
  | asking (request : Call)
  deriving DecidableEq

def standing : Program Call Answer α → Standing Call α
  | .done value => .ended value
  | .abort message => .broken message
  | .call request _ => .asking request

/-- A program has nothing more to ask. -/
def IsFinished (program : Program Call Answer α) : Prop :=
  ∀ request, program.standing ≠ .asking request

theorem not_isFinished_call {request : Call} {next : Answer request → Program Call Answer α} :
    ¬ IsFinished (.call request next) := by
  intro finished
  exact finished request rfl

/-! ## With any answers -/

/-- A program makes some calls, answered in whatever way, and the rest of it is left. -/
def Comes (program : Program Call Answer α) (exchanges : List (Exchange Call Answer))
    (left : Program Call Answer α) : Prop :=
  Goes (fun (_ : Unit) _ _ _ => True) program () exchanges left ()

section Comes

variable {exchanges : List (Exchange Call Answer)} {left : Program Call Answer α}

@[simp]
theorem comes_done_iff {value : α} :
    Comes (.done value) exchanges left ↔ exchanges = [] ∧ left = .done value := by
  rw [Comes, goes_done_iff]
  simp only [and_true]

@[simp]
theorem comes_done_done_iff {value outcome : α} :
    Comes (.done value) exchanges (.done outcome) ↔ exchanges = [] ∧ outcome = value := by
  simp

theorem comes_call_iff {request : Call} {next : Answer request → Program Call Answer α} :
    Comes (.call request next) exchanges left ↔
      (exchanges = [] ∧ left = .call request next) ∨
        ∃ answer rest, exchanges = ⟨request, answer⟩ :: rest ∧ Comes (next answer) rest left := by
  rw [Comes, goes_call_iff]
  constructor
  · intro goes
    rcases goes with ⟨nothing, isLeft, _⟩ | ⟨answer, _, rest, isMade, _, comes⟩
    · exact Or.inl ⟨nothing, isLeft⟩
    · exact Or.inr ⟨answer, rest, isMade, comes⟩
  · intro comes
    rcases comes with ⟨nothing, isLeft⟩ | ⟨answer, rest, isMade, comes⟩
    · exact Or.inl ⟨nothing, isLeft, rfl⟩
    · exact Or.inr ⟨answer, (), rest, isMade, trivial, comes⟩

/-- A program that ends has made its calls. -/
@[simp]
theorem comes_call_done_iff {request : Call} {next : Answer request → Program Call Answer α}
    {value : α} :
    Comes (.call request next) exchanges (.done value) ↔
      ∃ answer rest, exchanges = ⟨request, answer⟩ :: rest ∧
        Comes (next answer) rest (.done value) := by
  rw [comes_call_iff]
  simp only [reduceCtorEq, and_false, false_or]

end Comes

/-! ## In step -/

section InStep

variable (asks : Call → Call → Prop)
  (shows : (request other : Call) → Answer request → Answer other → Prop)

/-- Two programs ask alike, whatever they are answered as long as it is alike, and end alike. -/
inductive InStep (ends : α → β → Prop) : Program Call Answer α → Program Call Answer β → Prop where
  | done {value : α} {otherValue : β} (alike : ends value otherValue) :
      InStep ends (.done value) (.done otherValue)
  | abort (message : String) : InStep ends (.abort message) (.abort message)
  | call {request other : Call} {next : Answer request → Program Call Answer α}
      {otherNext : Answer other → Program Call Answer β} (asked : asks request other)
      (rest : ∀ answer otherAnswer, shows request other answer otherAnswer →
        InStep ends (next answer) (otherNext otherAnswer)) :
      InStep ends (.call request next) (.call other otherNext)

/-- Two courses of calls are answered alike wherever they ask alike. -/
def AnsweredAlike (exchanges others : List (Exchange Call Answer)) : Prop :=
  ∀ pair ∈ exchanges.zip others, asks pair.1.request pair.2.request →
    shows pair.1.request pair.2.request pair.1.answer pair.2.answer

end InStep

variable {asks : Call → Call → Prop}
  {shows : (request other : Call) → Answer request → Answer other → Prop} {ends : α → β → Prop}
  {program left : Program Call Answer α} {other otherLeft : Program Call Answer β}

theorem InStep.bind {goal : γ → δ → Prop} {next : α → Program Call Answer γ}
    {otherNext : β → Program Call Answer δ} (inStep : InStep asks shows ends program other)
    (rest : ∀ value otherValue, ends value otherValue →
      InStep asks shows goal (next value) (otherNext otherValue)) :
    InStep asks shows goal (program.bind next) (other.bind otherNext) := by
  induction inStep with
  | done alike => exact rest _ _ alike
  | abort message => exact .abort message
  | call asked _ inductionHypothesis =>
      exact .call asked fun answer otherAnswer shown =>
        inductionHypothesis answer otherAnswer shown

/-- A program keeps step with itself, over whatever its calls are replaced by, if that does. -/
theorem InStep.expand {Call' : Type} {Answer' : Call' → Type}
    {replace : (request : Call') → Program Call Answer (Answer' request)}
    (same : ∀ request, InStep asks shows Eq (replace request) (replace request))
    (program : Program Call' Answer' α) :
    InStep asks shows Eq (program.expand replace) (program.expand replace) := by
  induction program with
  | done value => exact .done rfl
  | abort message => exact .abort message
  | call request next inductionHypothesis =>
      refine (same request).bind ?_
      intro answer otherAnswer alike
      rw [← alike]
      exact inductionHypothesis answer

theorem InStep.isFinished (inStep : InStep asks shows ends program other)
    (finished : other.IsFinished) : program.IsFinished := by
  cases inStep with
  | done _ => exact fun _ impossible => nomatch impossible
  | abort _ => exact fun _ impossible => nomatch impossible
  | call _ _ => exact absurd finished not_isFinished_call

theorem InStep.isFinished_right (inStep : InStep asks shows ends program other)
    (finished : program.IsFinished) : other.IsFinished := by
  cases inStep with
  | done _ => exact fun _ impossible => nomatch impossible
  | abort _ => exact fun _ impossible => nomatch impossible
  | call _ _ => exact absurd finished not_isFinished_call

theorem InStep.imp {goal : α → β → Prop} (implied : ∀ value otherValue, ends value otherValue →
    goal value otherValue) (inStep : InStep asks shows ends program other) :
    InStep asks shows goal program other := by
  induction inStep with
  | done alike => exact .done (implied _ _ alike)
  | abort message => exact .abort message
  | call asked _ inductionHypothesis => exact .call asked inductionHypothesis

/-- Where the same is asked and the ends are the same, two programs in step stand at the same
point. -/
theorem InStep.standing_eq {right : Program Call Answer α}
    (sameAsked : ∀ request other, asks request other → request = other)
    (inStep : InStep asks shows Eq left right) : left.standing = right.standing := by
  cases inStep with
  | done alike => exact congrArg Standing.ended alike
  | abort _ => rfl
  | call asked _ => exact congrArg Standing.asking (sameAsked _ _ asked)

variable {answers : σ → (request : Call) → Answer request → σ → Prop}
  {otherAnswers : τ → (request : Call) → Answer request → τ → Prop}
  {start finish : σ} {otherStart otherFinish : τ} {exchanges others : List (Exchange Call Answer)}

/-- Two programs in step, answered alike, ask alike, and what is left of them after as many calls, or
when both have nothing more to ask, is in step again. -/
theorem InStep.of_goes (inStep : InStep asks shows ends program other)
    (goes : Goes answers program start exchanges left finish)
    (otherGoes : Goes otherAnswers other otherStart others otherLeft otherFinish)
    (alike : AnsweredAlike asks shows exchanges others)
    (level : exchanges.length = others.length ∨ left.IsFinished ∧ otherLeft.IsFinished) :
    exchanges.Forall₂ (fun exchange otherExchange => asks exchange.request otherExchange.request)
        others ∧
      InStep asks shows ends left otherLeft := by
  induction goes generalizing other otherStart others with
  | still program =>
      cases otherGoes with
      | still => exact ⟨.nil, inStep⟩
      | call _ _ =>
          rcases level with sameLength | ⟨finished, _⟩
          · cases sameLength
          · exact absurd (inStep.isFinished_right finished) not_isFinished_call
  | call _ _ inductionHypothesis =>
      cases otherGoes with
      | still =>
          rcases level with sameLength | ⟨_, finished⟩
          · cases sameLength
          · exact absurd (inStep.isFinished finished) not_isFinished_call
      | call _ otherRest =>
          cases inStep with
          | call asked rest =>
              have shown := alike _ List.mem_cons_self asked
              have restAlike : AnsweredAlike asks shows _ _ :=
                fun pair member => alike pair (List.mem_cons_of_mem _ member)
              have restLevel := level.imp_left Nat.succ.inj
              obtain ⟨restAsked, restInStep⟩ :=
                inductionHypothesis (rest _ _ shown) otherRest restAlike restLevel
              exact ⟨.cons asked restAsked, restInStep⟩

end Program

end Provisioning
