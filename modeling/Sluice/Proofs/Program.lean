import Mathlib.Logic.Relation
import Sluice.Program

/-! What programs do under every way of answering them. A trace lists the questions a program asked with the
answers it got. A world says which answers a question may get and what becomes of the world then; a program
ensures a condition if every way through its questions ends in it. The world that remembers everything and rules
nothing out stands for all others. Two facts on runs of steps stand before: a run keeps what each step keeps, and
one that cannot go on for ever can be brought to rest. -/

set_option autoImplicit false

namespace Sluice

section
variable {State : Type} {step : State → State → Prop}

theorem kept_throughout {invariant : State → Prop} {first last : State}
    (steps : Relation.ReflTransGen step first last) (holds : invariant first)
    (kept : ∀ {state next}, invariant state → step state next → invariant next) : invariant last := by
  induction steps with
  | refl => exact holds
  | tail _ step ih => exact kept ih step

theorem comes_to_rest {state : State} (finite : Acc (fun next state => step state next) state) :
    ∃ last, Relation.ReflTransGen step state last ∧ ∀ next, ¬ step last next := by
  induction finite with
  | intro state _ ih =>
    by_cases rest : ∀ next, ¬ step state next
    · exact ⟨state, .refl, rest⟩
    · obtain ⟨next, first⟩ : ∃ next, step state next := by simpa using rest
      obtain ⟨last, steps, rest⟩ := ih next first
      exact ⟨last, .head first steps, rest⟩

end

/-- A question with the answer it got. -/
structure Exchange (I : Interface) where
  question : I.Ask
  answer : I.Answer question

/-- The answers that a question may get in a state, each with the state after it. -/
abbrev World (I : Interface) (σ : Type) := (question : I.Ask) → σ → I.Answer question → σ → Prop

/-- Any answer is possible, and all are remembered. -/
def World.free (I : Interface) : World I (List (Exchange I)) :=
  fun question history answer after => after = history ++ [⟨question, answer⟩]

/-- The world may give the answers of a trace, one after another. -/
inductive World.Gives {I : Interface} {σ : Type} (world : World I σ) : σ → List (Exchange I) → σ → Prop where
  | silence {state : σ} : Gives world state [] state
  | answer {question : I.Ask} {answer : I.Answer question} {state middle after : σ} {trace : List (Exchange I)} :
      world question state answer middle → Gives world middle trace after →
      Gives world state (⟨question, answer⟩ :: trace) after

theorem World.free_gives {I : Interface} (history trace : List (Exchange I)) :
    (World.free I).Gives history trace (history ++ trace) := by
  induction trace generalizing history with
  | nil => simpa using Gives.silence
  | cons exchange rest ih =>
    have given := ih (history ++ [exchange])
    rw [List.append_assoc] at given
    exact .answer rfl given

namespace Program

variable {I J : Interface} {α β σ τ : Type}

/-- The program, asked from its beginning and answered as the trace says, has the rest still before it. -/
inductive Reaches : Program I α → List (Exchange I) → Program I α → Prop where
  | here {program : Program I α} : Reaches program [] program
  | step {question : I.Ask} {resume : I.Answer question → Program I α} {answer : I.Answer question}
      {trace : List (Exchange I)} {rest : Program I α} :
      Reaches (resume answer) trace rest → Reaches (.ask question resume) (⟨question, answer⟩ :: trace) rest

theorem Reaches.eq_nil_of_done {value : α} {trace : List (Exchange I)} {rest : Program I α}
    (run : Reaches (.done value) trace rest) : trace = [] := by
  cases run
  rfl

theorem reaches_done_iff {value other : α} {trace : List (Exchange I)} :
    Reaches (.done value) trace (.done other) ↔ trace = [] ∧ other = value := by
  constructor
  · intro run
    cases run
    exact ⟨rfl, rfl⟩
  · rintro ⟨rfl, rfl⟩
    exact .here

/-- Where every question has an answer, a program stopped anywhere could have gone on to its end. -/
theorem Reaches.extend [∀ question, Nonempty (I.Answer question)] {program rest : Program I α}
    {trace : List (Exchange I)} (run : Reaches program trace rest) :
    ∃ more value, Reaches program (trace ++ more) (.done value) := by
  induction run with
  | @here program =>
    -- what is left is itself a tree of questions, any branch of which leads to an end
    induction program with
    | done value => exact ⟨[], value, .here⟩
    | ask question resume ih =>
      obtain ⟨answer⟩ := (inferInstance : Nonempty (I.Answer question))
      obtain ⟨more, value, run⟩ := ih answer
      exact ⟨⟨question, answer⟩ :: more, value, .step run⟩
  | step _ ih =>
    obtain ⟨more, value, run⟩ := ih
    exact ⟨more, value, .step run⟩

/-- A program that has come to a question goes on with any answer. -/
theorem Reaches.answer {program : Program I α} {trace : List (Exchange I)} {question : I.Ask}
    {resume : I.Answer question → Program I α} (run : Reaches program trace (.ask question resume))
    (answer : I.Answer question) : Reaches program (trace ++ [⟨question, answer⟩]) (resume answer) := by
  generalize same : Program.ask question resume = rest at run
  induction run with
  | here =>
    subst same
    exact .step .here
  | step _ ih => exact .step (ih same)

/-- A program and what goes on after it come to an end as the one and then the other. -/
theorem reaches_bind_iff (program : Program I α) (next : α → Program I β) {trace : List (Exchange I)} {value : β} :
    Reaches (program.bind next) trace (.done value) ↔
      ∃ first middle second, Reaches program first (.done middle) ∧ Reaches (next middle) second (.done value) ∧
        trace = first ++ second := by
  induction program generalizing trace with
  | done middle =>
    constructor
    · exact fun run => ⟨[], middle, trace, .here, run, rfl⟩
    · rintro ⟨first, _, second, run, after, rfl⟩
      cases run
      exact after
  | ask question resume ih =>
    constructor
    · intro run
      cases run with
      | @step _ _ answer _ _ run =>
        obtain ⟨first, middle, second, before, after, rfl⟩ := (ih answer).1 run
        exact ⟨⟨question, answer⟩ :: first, middle, second, .step before, after, rfl⟩
    · rintro ⟨first, middle, second, run, after, rfl⟩
      cases run with
      | @step _ _ answer _ _ run => exact .step ((ih answer).2 ⟨_, middle, second, run, after, rfl⟩)

theorem run_bind {answer : (question : I.Ask) → σ → I.Answer question × σ} (program : Program I α)
    (next : α → Program I β) (state : σ) : run answer (program.bind next) state =
      run answer (next (run answer program state).1) (run answer program state).2 := by
  induction program generalizing state with
  | done value => rfl
  | ask question resume ih => exact ih (answer question state).1 (answer question state).2

/-- Every way through the program's questions ends in a value and a state that meet the condition. -/
def Ensures (world : World I σ) (post : α → σ → Prop) : Program I α → σ → Prop
  | .done value, state => post value state
  | .ask question resume, state => ∀ answer after, world question state answer after →
      Ensures world post (resume answer) after

variable {world : World I σ} {post : α → σ → Prop}

@[simp] theorem ensures_done (value : α) (state : σ) :
    (Program.done value : Program I α).Ensures world post state ↔ post value state := Iff.rfl

theorem ensures_ask (question : I.Ask) (resume : I.Answer question → Program I α) (state : σ) :
    (Program.ask question resume).Ensures world post state ↔
      ∀ answer after, world question state answer after → (resume answer).Ensures world post after :=
  Iff.rfl

@[simp] theorem ensures_free_ask {post : α → List (Exchange I) → Prop} (question : I.Ask)
    (resume : I.Answer question → Program I α) (history : List (Exchange I)) :
    (Program.ask question resume).Ensures (World.free I) post history ↔
      ∀ answer, (resume answer).Ensures (World.free I) post (history ++ [⟨question, answer⟩]) := by
  simp [ensures_ask, World.free]

@[simp] theorem ensures_bind {post : β → σ → Prop} (program : Program I α) (next : α → Program I β)
    (state : σ) :
    (program.bind next).Ensures world post state ↔
      program.Ensures world (fun value after => (next value).Ensures world post after) state := by
  induction program generalizing state with
  | done value => rfl
  | ask question resume ih => simp only [ask_bind, ensures_ask, ih]

theorem Ensures.mono {weaker : α → σ → Prop} {program : Program I α} {state : σ}
    (ensured : program.Ensures world post state)
    (implies : ∀ value after, post value after → weaker value after) :
    program.Ensures world weaker state := by
  induction program generalizing state with
  | done value => exact implies value state ensured
  | ask question resume ih => exact fun answer after given => ih answer (ensured answer after given)

theorem Ensures.bind {post : β → σ → Prop} {middle : α → σ → Prop} {program : Program I α}
    {next : α → Program I β} {state : σ} (first : program.Ensures world middle state)
    (rest : ∀ value after, middle value after → (next value).Ensures world post after) :
    (program.bind next).Ensures world post state :=
  (ensures_bind program next state).2 (first.mono rest)

/-- What every answer leaves in place is ensured by every program. -/
theorem Ensures.always {invariant : σ → Prop}
    (kept : ∀ question state answer after, world question state answer after → invariant state → invariant after)
    (program : Program I α) {state : σ} (holds : invariant state) :
    program.Ensures world (fun _ after => invariant after) state := by
  induction program generalizing state with
  | done value => exact holds
  | ask question resume ih =>
    exact fun answer after given => ih answer (kept question state answer after given holds)

/-- An invariant of the operations that answer a program is an invariant of the whole program. -/
theorem Ensures.interpret {answer : (question : J.Ask) → τ → Program I (J.Answer question × τ)}
    {invariant : τ → σ → Prop}
    (step : ∀ question inner state, invariant inner state →
      (answer question inner).Ensures world (fun reply after => invariant reply.2 after) state)
    (program : Program J α) {inner : τ} {state : σ} (holds : invariant inner state) :
    (program.interpret answer inner).Ensures world (fun result after => invariant result.2 after) state := by
  induction program generalizing inner state with
  | done value => exact holds
  | ask question resume ih =>
    exact (step question inner state holds).bind fun reply after kept => ih reply.1 kept

/-- Two ways to go on after a program are one if they are for everything that it can end in. -/
theorem Ensures.bind_congr {first second : α → Program I β} {program : Program I α} {history : List (Exchange I)}
    (same : program.Ensures (World.free I) (fun value _ => first value = second value) history) :
    program.bind first = program.bind second := by
  induction program generalizing history with
  | done value => exact same
  | ask question resume ih =>
    rw [ensures_free_ask] at same
    rw [ask_bind, ask_bind]
    congr 1
    funext answer
    exact ih answer (same answer)

/-- What is ensured holds after every complete run on answers that the world may give. -/
theorem Ensures.of_gives {program : Program I α} {state after : σ} {trace : List (Exchange I)} {value : α}
    (ensured : program.Ensures world post state) (run : Reaches program trace (.done value))
    (gives : world.Gives state trace after) : post value after := by
  induction program generalizing state trace with
  | done other =>
    cases run
    cases gives
    exact ensured
  | ask question resume ih =>
    cases run with
    | @step _ _ answer _ _ run =>
      cases gives with
      | answer given gives => exact ih answer (ensured answer _ given) run gives

/-- What is ensured in the free world holds after every complete run. -/
theorem Ensures.of_reaches {post : α → List (Exchange I) → Prop} {program : Program I α}
    {history trace : List (Exchange I)} {value : α} (ensured : program.Ensures (World.free I) post history)
    (run : Reaches program trace (.done value)) : post value (history ++ trace) :=
  ensured.of_gives run (World.free_gives history trace)

/-- In a world that answers every question, a program comes to its end. -/
theorem reaches_end (answers : ∀ question state, ∃ answer after, world question state answer after)
    (program : Program I α) (state : σ) :
    ∃ trace value after, Reaches program trace (.done value) ∧ world.Gives state trace after := by
  induction program generalizing state with
  | done value => exact ⟨[], value, state, .here, .silence⟩
  | ask question resume ih =>
    obtain ⟨answer, middle, given⟩ := answers question state
    obtain ⟨trace, value, after, run, gives⟩ := ih answer middle
    exact ⟨⟨question, answer⟩ :: trace, value, after, .step run, .answer given gives⟩

end Program

end Sluice
