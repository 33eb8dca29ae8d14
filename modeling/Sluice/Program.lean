/-! Programs that ask questions of their surroundings. A program is a finite tree: it is done with a value, or
it asks a question and goes on with the answer. What the questions mean is up to whoever runs it. -/

set_option autoImplicit false

namespace Sluice

/-- Questions, each with its type of answers. -/
structure Interface where
  Ask : Type
  Answer : Ask → Type

inductive Program (I : Interface) (α : Type) : Type where
  | done (value : α)
  | ask (question : I.Ask) (resume : I.Answer question → Program I α)

namespace Program

variable {I J : Interface} {α β σ : Type}

def bind : Program I α → (α → Program I β) → Program I β
  | .done value, next => next value
  | .ask question resume, next => .ask question fun answer => bind (resume answer) next

instance : Monad (Program I) where
  pure := .done
  bind := bind

instance [Inhabited α] : Inhabited (Program I α) := ⟨.done default⟩

/-- The program of one question. -/
def send (question : I.Ask) : Program I (I.Answer question) := .ask question .done

/-- Runs a program over a state that answers every question at once. -/
def run (answer : (question : I.Ask) → σ → I.Answer question × σ) : Program I α → σ → α × σ
  | .done value, state => (value, state)
  | .ask question resume, state =>
    let (reply, state) := answer question state
    run answer (resume reply) state

/-- Answers every question by a program over other questions, with a state carried along. -/
def interpret (answer : (question : I.Ask) → σ → Program J (I.Answer question × σ)) :
    Program I α → σ → Program J (α × σ)
  | .done value, state => .done (value, state)
  | .ask question resume, state =>
    (answer question state).bind fun (reply, state) => interpret answer (resume reply) state

@[simp] theorem done_bind (value : α) (next : α → Program I β) :
    (Program.done value).bind next = next value := rfl

@[simp] theorem ask_bind (question : I.Ask) (resume : I.Answer question → Program I α)
    (next : α → Program I β) :
    (Program.ask question resume).bind next = .ask question fun answer => (resume answer).bind next :=
  rfl

@[simp] theorem bind_done (program : Program I α) : program.bind .done = program := by
  induction program with
  | done value => rfl
  | ask question resume ih => simp [ih]

theorem bind_assoc {γ : Type} (program : Program I α) (f : α → Program I β) (g : β → Program I γ) :
    (program.bind f).bind g = program.bind fun value => (f value).bind g := by
  induction program with
  | done value => rfl
  | ask question resume ih => simp [ih]

end Program

end Sluice
