import Sluice.Dispatch.Task
import Sluice.Proofs.Exchange.Listener
import Sluice.Proofs.Program

/-! A task and the engine that waits for its response, takes it and reads on. The two go on in any order; the task
stands still before a full pipe. Whatever the task does, every way on is finite, at most one response comes out of
it, and where nothing can go on any more the task has ended and the engine has heard the end of the body. -/

set_option autoImplicit false

namespace Sluice

def Writer.Ask.readings : Writer.Ask → Nat
  | .now => 1
  | _ => 0

/-- A pipe with the engine at its far end, and how often the clock was read. -/
structure Scene where
  pipe : Pipe
  listener : Listener
  tick : Nat

namespace Scene

def fresh (tick : Nat) : Scene := ⟨Pipe.fresh, Listener.fresh, tick⟩

inductive Hears : Scene → Scene → Prop where
  | heard {pipe after : Pipe} {listener later : Listener} {tick : Nat} :
      Listener.Hears pipe listener after later → Hears ⟨pipe, listener, tick⟩ ⟨after, later, tick⟩

def answer (clock : Nat → Instant) (question : Writer.Ask) (scene : Scene) : Writer.Answer question × Scene :=
  let reply := scene.pipe.answer (clock scene.tick) question
  (reply.1, { scene with pipe := reply.2, tick := scene.tick + question.readings })

/-- What is left to hear before the writer does more. -/
def backlog (scene : Scene) : Nat :=
  scene.pipe.buffer.length + (if scene.pipe.ended then 0 else 1) +
    (if .finish ∈ scene.listener.heard then 0 else 1) +
    match scene.pipe.slot with
    | .ready _ _ => 1
    | _ => 0

variable {scene after : Scene}

theorem Hears.backlog_lt (hears : Hears scene after) : after.backlog < scene.backlog := by
  obtain @⟨pipe, after, listener, later, tick, hears⟩ := hears
  cases hears with
  | head taken =>
    obtain ⟨ready, rfl⟩ := Pipe.takeHead?_some taken
    simp [backlog, ready]
  | frame held more read present =>
    cases frames : pipe.buffer with
    | cons frame rest =>
      rw [Pipe.read_cons frames] at read
      obtain ⟨rfl, rfl⟩ := Prod.mk.inj read
      have further : .finish ∉ listener.heard ++ [Pipe.Reading.ofFrame frame] := by
        simp [more]
      simp only [backlog, frames, more, further, List.length_cons, if_false]
      omega
    | nil =>
      rw [Pipe.read_nil frames] at read
      obtain ⟨rfl, rfl⟩ := Prod.mk.inj read
      cases ended : pipe.ended <;> cases holds : pipe.holdsBody <;> cases finished : pipe.finished <;>
        simp_all [backlog]

theorem Hears.holdsBody_eq (hears : Hears scene after) : after.pipe.holdsBody = scene.pipe.holdsBody := by
  obtain ⟨hears⟩ := hears
  cases hears with
  | head taken =>
    obtain ⟨-, rfl⟩ := Pipe.takeHead?_some taken
    rfl
  | frame held more read present =>
    obtain rfl := Pipe.read_after read
    rfl

/-- The head is sent: the engine has taken it, or will find it. -/
structure Sent (response : Head × Bool) (scene : Scene) : Prop where
  gone : scene.pipe.holdsHead = false
  handed : (scene.pipe.slot = .ready response.1 response.2 ∧ scene.listener = Listener.fresh) ∨
    (scene.pipe.slot = .taken ∧ scene.listener.responses = [response] ∧ scene.listener.holdsBody = true)
  ended : scene.pipe.ended = true → scene.pipe.holdsBody = false
  finish : .finish ∈ scene.listener.heard → scene.pipe.buffer = [] ∧ scene.pipe.holdsBody = false

namespace Sent

variable {response : Head × Bool}

theorem hears (sent : scene.Sent response) (hears : Hears scene after) :
    after.Sent response := by
  obtain @⟨pipe, after, listener, later, tick, hears⟩ := hears
  cases hears with
  | head taken =>
    obtain ⟨ready, rfl⟩ := Pipe.takeHead?_some taken
    rcases sent.handed with ⟨same, rfl⟩ | ⟨taken, -, -⟩
    · obtain ⟨head, streams⟩ := HeadSlot.ready.inj (same.symm.trans ready)
      exact {
        gone := sent.gone
        handed := .inr ⟨rfl, by simp [Listener.fresh, Prod.ext_iff, head, streams], rfl⟩
        ended := sent.ended
        finish := sent.finish }
    · simp [ready] at taken
  | @frame _ _ reading held more read present =>
    have let_go : pipe.ended = true ∨ pipe.holdsBody = false → pipe.holdsBody = false :=
      fun either => either.elim sent.ended id
    obtain rfl := Pipe.read_after read
    rcases sent.handed with ⟨-, rfl⟩ | ⟨taken, responses, held⟩
    · cases held
    -- the end is heard only from an empty pipe that the writer has let go
    · exact {
        gone := sent.gone
        handed := .inr ⟨taken, responses, held⟩
        ended := fun ended => by
          refine let_go ?_
          have ended : (pipe.ended || pipe.buffer.isEmpty && !pipe.holdsBody) = true := ended
          cases holds : pipe.holdsBody <;> simp_all
        finish := fun finish => by
          obtain rfl : .finish = reading := by simpa [more] using finish
          obtain ⟨empty, either⟩ := Pipe.read_finish read
          exact ⟨by simp [empty], let_go either⟩ }

/-- No answer changes the response that was sent. -/
theorem answer (sent : scene.Sent response) (clock : Nat → Instant) (question : Writer.Ask) :
    (scene.answer clock question).2.Sent response := by
  cases question with
  | isOpen | now | note _ => exact ⟨sent.gone, sent.handed, sent.ended, sent.finish⟩
  | call call =>
    obtain ⟨gone, slot, ended⟩ := Pipe.take_sent sent.gone call
    have same := fun let_go => Pipe.take_let_go sent.gone let_go call
    exact {
      gone
      handed := by
        have handed := sent.handed
        rwa [← slot] at handed
      ended := fun after => by
        have let_go := sent.ended (ended ▸ after)
        exact (congrArg Pipe.holdsBody (same let_go)).trans let_go
      finish := fun finish => by
        obtain ⟨empty, let_go⟩ := sent.finish finish
        exact ⟨(congrArg Pipe.buffer (same let_go)).trans empty,
          (congrArg Pipe.holdsBody (same let_go)).trans let_go⟩ }

theorem hangUp (sent : scene.Sent response) :
    Sent response { scene with pipe := scene.pipe.dropWriter } := by
  rw [Pipe.dropWriter_sent sent.gone]
  exact {
    gone := sent.gone
    handed := sent.handed
    ended := fun _ => rfl
    finish := fun finish => ⟨(sent.finish finish).1, rfl⟩ }

/-- What the engine took is the response that was sent. -/
theorem unique (sent : scene.Sent response) {other : Head × Bool} (taken : scene.listener.responses = [other]) :
    other = response := by
  rcases sent.handed with ⟨-, untaken⟩ | ⟨-, responses, -⟩
  · simp [untaken, Listener.fresh] at taken
  · simpa [taken] using responses

/-- Where the writer has let go or the pipe is full, an engine that has not heard the end has something to hear. -/
theorem can_hear (sent : scene.Sent response)
    (something : scene.pipe.buffer ≠ [] ∨ scene.pipe.holdsBody = false)
    (silent : ∀ after, ¬ Hears scene after) :
    scene.listener.responses = [response] ∧ .finish ∈ scene.listener.heard := by
  obtain ⟨pipe, listener, tick⟩ := scene
  rcases sent.handed with ⟨ready, -⟩ | ⟨-, responses, held⟩
  · exact absurd (.heard (.head (Pipe.takeHead?_ready ready))) (silent _)
  · refine ⟨responses, ?_⟩
    by_cases finish : .finish ∈ listener.heard
    · exact finish
    · exact absurd (.heard (.frame held finish rfl (Pipe.read_present something))) (silent _)

end Sent

/-- Either nothing was sent yet, or one response was. -/
inductive Attended : Scene → Prop where
  | fresh {tick : Nat} : Attended (Scene.fresh tick)
  | sent {scene : Scene} {response : Head × Bool} : scene.Sent response → Attended scene

/-- The first call decides what the response is; looking, asking for the time and taking notes change nothing. -/
theorem answer_fresh (clock : Nat → Instant) (question : Writer.Ask) (tick : Nat) :
    (∃ next, ((Scene.fresh tick).answer clock question).2 = Scene.fresh next) ∨
      ∃ response, ((Scene.fresh tick).answer clock question).2.Sent response := by
  cases question with
  | isOpen | now | note _ => exact .inl ⟨_, rfl⟩
  | call call =>
    cases call with
    | data bytes => exact .inl ⟨_, rfl⟩
    | head head => exact .inr ⟨(head, true), rfl, .inl ⟨rfl, rfl⟩, nofun, nofun⟩
    | close => exact .inr ⟨(⟨.ok, HeaderMap.empty⟩, false), rfl, .inl ⟨rfl, rfl⟩, fun _ => rfl, nofun⟩
    | closeWith cause =>
      exact .inr ⟨(⟨cause.statusCode, HeaderMap.empty⟩, false), rfl, .inl ⟨rfl, rfl⟩, fun _ => rfl, nofun⟩

theorem fresh_silent (tick : Nat) (after : Scene) : ¬ Hears (Scene.fresh tick) after := by
  intro hears
  generalize same : Scene.fresh tick = scene at hears
  obtain @⟨pipe, after, listener, later, tick, hears⟩ := hears
  cases same
  cases hears with
  | head taken => simp [Pipe.takeHead?, Pipe.fresh] at taken
  | frame held => cases held

namespace Attended

theorem hears (attended : scene.Attended) (hears : Hears scene after) : after.Attended := by
  cases attended with
  | fresh => exact absurd hears (fresh_silent _ _)
  | sent sent => exact .sent (sent.hears hears)

theorem answer (attended : scene.Attended) (clock : Nat → Instant) (question : Writer.Ask) :
    (scene.answer clock question).2.Attended := by
  cases attended with
  | @fresh tick =>
    rcases answer_fresh clock question tick with ⟨next, same⟩ | ⟨response, sent⟩
    · exact same ▸ .fresh
    · exact .sent sent
  | sent sent => exact .sent (sent.answer clock question)

theorem dropWriter (attended : scene.Attended) :
    ∃ response, Sent response { scene with pipe := scene.pipe.dropWriter } := by
  cases attended with
  | fresh =>
    exact ⟨(⟨.internalServerError, HeaderMap.empty⟩, false), rfl, .inl ⟨rfl, rfl⟩, fun _ => rfl, nofun⟩
  | sent sent => exact ⟨_, sent.hangUp⟩

end Attended

/-- The world of a program whose engine stays: before each answer the engine may hear more, as long as the pipe is
full it has to. -/
def world (clock : Nat → Instant) : World Writer.interface Scene := fun question scene reply after =>
  ∃ ready, Relation.ReflTransGen Hears scene ready ∧ ready.pipe.isFull = false ∧
    ready.answer clock question = (reply, after)

/-- A program goes on to ensure what it ensured before the engine heard more. -/
theorem ensures_hears {clock : Nat → Instant} {α : Type} {post : α → Scene → Prop} {program : Writing α}
    (kept : ∀ {value scene after}, post value scene → Hears scene after → post value after)
    (ensured : program.Ensures (world clock) post scene) (hears : Hears scene after) :
    program.Ensures (world clock) post after := by
  cases program with
  | done value => exact kept ensured hears
  | ask question resume =>
    -- the world lets the engine hear before it answers, so this is one of its ways
    rintro reply later ⟨ready, heard, free, answered⟩
    exact ensured reply later ⟨ready, .head hears heard, free, answered⟩

end Scene

/-- A task and the engine that waits for its response. -/
structure Delivery where
  program : Writing Unit
  ended : Bool
  scene : Scene

namespace Delivery

def task (delivery : Delivery) : Task := ⟨delivery.program, delivery.scene.pipe, delivery.ended⟩

/-- The delivery of a request. -/
def start (handler : Handler) (context : Context) (request : Request) : Delivery :=
  ⟨handler.serve context request, false, Scene.fresh 0⟩

theorem task_start (handler : Handler) (context : Context) (request : Request) :
    (start handler context request).task = Task.start handler context request := rfl

/-- The task does one thing: its question is answered, or it ends and its writer goes away. -/
inductive Works (clock : Nat → Instant) : Delivery → Delivery → Prop where
  | answer {question : Writer.Ask} {resume : Writer.Answer question → Writing Unit} {scene : Scene} :
      scene.pipe.isFull = false →
      Works clock ⟨.ask question resume, false, scene⟩
        ⟨resume (scene.answer clock question).1, false, (scene.answer clock question).2⟩
  | close {scene : Scene} : scene.pipe.isFull = false →
      Works clock ⟨.done (), false, scene⟩ ⟨.done (), true, { scene with pipe := scene.pipe.dropWriter }⟩

inductive Step (clock : Nat → Instant) : Delivery → Delivery → Prop where
  | work {delivery next : Delivery} : Works clock delivery next → Step clock delivery next
  | hear {program : Writing Unit} {ended : Bool} {scene after : Scene} :
      scene.Hears after → Step clock ⟨program, ended, scene⟩ ⟨program, ended, after⟩

variable {clock : Nat → Instant} {delivery next : Delivery}

/-- A task that goes on as far as it can takes steps of a delivery. -/
theorem advance_steps (now : Instant) (program : Writing Unit) (scene : Scene) :
    ∃ last : Delivery, Relation.ReflTransGen (Works fun _ => now) ⟨program, false, scene⟩ last ∧
      last.task = (Task.advance now ⟨program, scene.pipe, false⟩).1 := by
  induction program generalizing scene with
  | done value =>
    cases full : scene.pipe.isFull with
    | true => exact ⟨_, .refl, by simp [Task.advance, Writing.advance, Task.close, full, task]⟩
    | false =>
      exact ⟨_, .single (.close full), by simp [Task.advance, Writing.advance, Task.close, full, task]⟩
  | ask question resume ih =>
    cases full : scene.pipe.isFull with
    | true => exact ⟨_, .refl, by simp [Task.advance, Writing.advance, Task.close, full, task]⟩
    | false =>
      obtain ⟨last, steps, same⟩ := ih _ (scene.answer (fun _ => now) question).2
      refine ⟨last, .head (.answer full) steps, same.trans ?_⟩
      simp [Task.advance, Writing.advance, full, Scene.answer]

abbrev Follows (clock : Nat → Instant) (next delivery : Delivery) : Prop := Step clock delivery next

/-- Hearing alone comes to an end, so a delivery ends if it does after everything its task can do next. -/
theorem acc_of_works {program : Writing Unit} {ended : Bool}
    (works : ∀ scene next, Works clock ⟨program, ended, scene⟩ next → Acc (Follows clock) next) (scene : Scene) :
    Acc (Follows clock) ⟨program, ended, scene⟩ := by
  induction length : scene.backlog using Nat.strongRecOn generalizing scene with
  | _ backlog ih =>
    constructor
    intro next step
    cases step with
    | work work => exact works scene next work
    | hear hears => exact ih _ (length ▸ hears.backlog_lt) _ rfl

/-- Every way on is finite, whatever the program. -/
theorem acc (clock : Nat → Instant) (delivery : Delivery) : Acc (Follows clock) delivery := by
  have closed : ∀ program scene, Acc (Follows clock) ⟨program, true, scene⟩ :=
    fun program => acc_of_works fun _ _ work => nomatch work
  obtain ⟨program, ended, scene⟩ := delivery
  cases ended with
  | true => exact closed program scene
  | false =>
    -- the program gets smaller with every answer, and between two answers the backlog does
    induction program generalizing scene with
    | done value =>
      refine acc_of_works (fun scene next work => ?_) scene
      cases work with
      | close => exact closed _ _
    | ask question resume ih =>
      refine acc_of_works (fun scene next work => ?_) scene
      cases work with
      | answer => exact ih _ _

/-- What holds of a delivery at all times. -/
inductive Sound : Delivery → Prop where
  | running {program : Writing Unit} {scene : Scene} : scene.Attended → Sound ⟨program, false, scene⟩
  | ended {program : Writing Unit} {scene : Scene} {response : Head × Bool} :
      scene.Sent response → scene.pipe.holdsBody = false → Sound ⟨program, true, scene⟩

namespace Sound

theorem start (handler : Handler) (context : Context) (request : Request) :
    (Delivery.start handler context request).Sound := .running .fresh

theorem step (sound : delivery.Sound) (step : Step clock delivery next) : next.Sound := by
  cases step with
  | work work =>
    cases work with
    | answer free =>
      obtain ⟨attended⟩ := sound
      exact .running (attended.answer clock _)
    | close free =>
      obtain ⟨attended⟩ := sound
      obtain ⟨response, sent⟩ := attended.dropWriter
      exact .ended sent rfl
  | hear hears =>
    cases sound with
    | running attended => exact .running (attended.hears hears)
    | ended sent let_go => exact .ended (sent.hears hears) (hears.holdsBody_eq.trans let_go)

/-- A task does not stand still for good while its engine hears on. -/
theorem not_full {program : Writing Unit} {scene : Scene} (attended : scene.Attended)
    (rest : ∀ next, ¬ Step clock ⟨program, false, scene⟩ next) : scene.pipe.isFull = false := by
  cases attended with
  | fresh => rfl
  | sent sent =>
    cases full : scene.pipe.isFull with
    | false => rfl
    | true =>
      -- frames in the pipe and nothing to hear: then the end was heard, but nothing comes after the end
      have some : scene.pipe.buffer ≠ [] := by
        intro empty
        simp [Pipe.isFull, empty] at full
      have heard := sent.can_hear (.inl some) fun after hears => rest _ (.hear hears)
      exact absurd (sent.finish heard.2).1 some

/-- Where nothing can go on, the task has ended and its one response was heard to the end. -/
theorem at_rest (sound : delivery.Sound) (rest : ∀ next, ¬ Step clock delivery next) :
    delivery.ended = true ∧ ∃ response, delivery.scene.Sent response ∧
      delivery.scene.listener.responses = [response] ∧ .finish ∈ delivery.scene.listener.heard := by
  cases sound with
  | @running program scene attended =>
    have free := not_full attended rest
    cases program with
    | done value => exact absurd (.work (.close free)) (rest _)
    | ask question resume => exact absurd (.work (.answer free)) (rest _)
  | @ended program scene response sent let_go =>
    exact ⟨rfl, response, sent, sent.can_hear (.inr let_go) fun after hears => rest _ (.hear hears)⟩

end Sound

theorem responses_step (step : Step clock delivery next) :
    delivery.scene.listener.responses <+: next.scene.listener.responses := by
  cases step with
  | work work => cases work <;> exact List.prefix_rfl
  | hear hears =>
    obtain ⟨hears⟩ := hears
    cases hears with
    | head taken => exact List.prefix_append _ _
    | frame held more read present => exact List.prefix_rfl

/-- A response that was taken stays taken. -/
theorem responses_grow (steps : Relation.ReflTransGen (Step clock) delivery next) :
    delivery.scene.listener.responses <+: next.scene.listener.responses := by
  induction steps with
  | refl => exact List.prefix_rfl
  | tail _ step ih => exact ih.trans (responses_step step)

end Delivery

end Sluice
