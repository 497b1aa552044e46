/-!
# Programs as trees of calls

A program that talks to collaborators, as data: it is done, it breaks off, or it makes a call and
goes on with whatever the answer is.  Nothing is said about the collaborators, so a statement about a
program holds for all of their answers; to run one, an answer is supplied for every call.
-/

namespace Provisioning

/-- A program over calls, each with its own type of answers. -/
inductive Program (Call : Type) (Answer : Call → Type) (α : Type) : Type where
  /-- The program ends with a value. -/
  | done (value : α)
  /-- The program breaks off, with the text of what went wrong. -/
  | abort (message : String)
  /-- The program makes a call and goes on with its answer. -/
  | call (request : Call) (next : Answer request → Program Call Answer α)

namespace Program

variable {Call : Type} {Answer : Call → Type} {α β : Type}

/-- Goes on with the value that a program ends with. -/
def bind : Program Call Answer α → (α → Program Call Answer β) → Program Call Answer β
  | .done value, next => next value
  | .abort message, _ => .abort message
  | .call request answered, next => .call request fun answer => bind (answered answer) next

instance : Monad (Program Call Answer) where
  pure := .done
  bind := bind

/-- The program that makes one call and ends with its answer. -/
def perform (request : Call) : Program Call Answer (Answer request) :=
  .call request .done

/-- Runs a program: every call is answered, and a program that breaks off is halted. -/
def run {m : Type → Type} [Monad m] (halt : String → m α)
    (answer : (request : Call) → m (Answer request)) : Program Call Answer α → m α
  | .done value => pure value
  | .abort message => halt message
  | .call request next => do run halt answer (next (← answer request))

/-- Replaces every call of a program by a program over other calls. -/
def expand {Call' : Type} {Answer' : Call' → Type}
    (replace : (request : Call) → Program Call' Answer' (Answer request)) :
    Program Call Answer α → Program Call' Answer' α
  | .done value => .done value
  | .abort message => .abort message
  | .call request next => (replace request).bind fun answer => expand replace (next answer)

/-! ## Laws -/

@[simp]
theorem bind_done (program : Program Call Answer α) : program.bind .done = program := by
  induction program with
  | done value => rfl
  | abort message => rfl
  | call request next inductionHypothesis =>
      simp only [bind]
      congr 1
      funext answer
      exact inductionHypothesis answer

@[simp]
theorem bind_assoc {γ : Type} (program : Program Call Answer α)
    (first : α → Program Call Answer β) (second : β → Program Call Answer γ) :
    (program.bind first).bind second = program.bind fun value => (first value).bind second := by
  induction program with
  | done value => rfl
  | abort message => rfl
  | call request next inductionHypothesis =>
      simp only [bind]
      congr 1
      funext answer
      exact inductionHypothesis answer

instance : LawfulMonad (Program Call Answer) :=
  LawfulMonad.mk' _
    (fun program => bind_done program)
    (fun _ _ => rfl)
    (fun program first second => bind_assoc program first second)

end Program

end Provisioning
