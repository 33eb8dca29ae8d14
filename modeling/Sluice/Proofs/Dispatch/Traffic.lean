import Sluice.Dispatch.Dispatcher
import Sluice.Proofs.Exchange.Delivery

/-! Dispatches side by side. Each runs its decorators on a strand of its own; a strand that has called the handler holds
the invocation until it has the head of its response. From then on the invocation goes on alone, as it does when its
strand is abandoned. All that any of them does or suffers is a step, and the steps of all come in any order. The count
goes up when a handler is called, and down when its task ends or goes away, or when it is given up before a task
runs it; so it is always the number of invocations that live. A strand has a move of its own as long as it is neither
answered nor abandoned, and it comes to its end after finitely many changes. -/

set_option autoImplicit false

namespace Sluice

/-- A call of the handler, from its entry on. -/
inductive Invocation where
  /-- No task runs it yet. -/
  | entered (request : Request)
  | running (task : Task)
  /-- Given up before a task ran it. -/
  | dropped

namespace Invocation

/-- Neither ended nor dropped. -/
def isLive : Invocation → Bool
  | .entered _ => true
  | .running task => !task.ended
  | .dropped => false

def live (invocations : List Invocation) : Nat := invocations.countP isLive

/-- What an invocation does by itself, with the change of the count. -/
inductive Turns (handler : Handler) : Invocation → Int → Invocation → Prop where
  | start (context : Context) (request : Request) :
      Turns handler (.entered request) 0 (.running (Task.start handler (request.context.getD context) request))
  | work {clock : Nat → Instant} {before after : Delivery} : Delivery.Works clock before after →
      after.ended = false → Turns handler (.running before.task) 0 (.running after.task)
  | finish {clock : Nat → Instant} {before after : Delivery} : Delivery.Works clock before after →
      after.ended = true → Turns handler (.running before.task) (-1) (.running after.task)

/-- The task goes away before it has ended, and its writer with it. -/
inductive Falls : Invocation → Invocation → Prop where
  | fall {task : Task} : task.ended = false →
      Falls (.running task) (.running { task with pipe := task.pipe.dropWriter, ended := true })

/-- What happens to an invocation that goes on alone: it does something, it falls, or its body is read or dropped. -/
inductive Goes (handler : Handler) : Invocation → Int → Invocation → Prop where
  | turn {before after : Invocation} {change : Int} :
      Turns handler before change after → Goes handler before change after
  | fall {before after : Invocation} : Falls before after → Goes handler before (-1) after
  | read {task : Task} : Goes handler (.running task) 0 (.running { task with pipe := task.pipe.read.2 })
  | drop {task : Task} : Goes handler (.running task) 0 (.running { task with pipe := task.pipe.dropBody })

end Invocation

/-- Where a strand stands. -/
inductive Stage where
  | deciding (rest : Flow Outcome)
  /-- The handler was called, and its head is waited for. -/
  | calling (request : Request) (invocation : Invocation) (resume : Outcome → Flow Outcome)
  | answered (reply : Reply Source)
  | abandoned

namespace Stage

def invocations : Stage → List Invocation
  | .calling _ invocation _ => [invocation]
  | _ => []

def IsOver (stage : Stage) : Prop := stage = .abandoned ∨ ∃ reply, stage = .answered reply

/-- The response to what the decorators come to. -/
def replyOf : Outcome → Reply Source
  | .ok reply => reply
  | .error fault => Dispatcher.failureReply fault

/-- A move of a strand by itself, with what its decorators hear, the invocation that it lets go and the change of the
count. A body that it gets is found at the given index. -/
inductive Moves (handler : Handler) (index : Nat) :
    Stage → List (Exchange Flow.interface) → List Invocation → Int → Stage → Prop where
  | ask {question : Flow.Ask} {resume : Flow.Answer question → Flow Outcome} (answer : Flow.Answer question) :
      (∀ request, question ≠ .handle request) →
      Moves handler index (.deciding (.ask question resume)) [⟨question, answer⟩] [] 0 (.deciding (resume answer))
  | enter {request : Request} {resume : Outcome → Flow Outcome} :
      Moves handler index (.deciding (.ask (I := Flow.interface) (.handle request) resume)) [] [] 1
        (.calling request (.entered request) resume)
  | turn {request : Request} {before after : Invocation} {change : Int} {resume : Outcome → Flow Outcome} :
      before.Turns handler change after →
      Moves handler index (.calling request before resume) [] [] change (.calling request after resume)
  | take {request : Request} {task : Task} {head : Head} {streams : Bool} {pipe : Pipe}
      {resume : Outcome → Flow Outcome} {outcome : Outcome} :
      task.pipe.takeHead? = (some (head, streams), pipe) →
      outcome = .ok ⟨head.status, head.headers, if streams then .stream index else .frames []⟩ →
      Moves handler index (.calling request (.running task) resume) [⟨.handle request, outcome⟩]
        [.running { task with pipe }] 0 (.deciding (resume outcome))
  | answer {outcome : Outcome} :
      Moves handler index (.deciding (.done outcome)) [] [] 0 (.answered (replyOf outcome))

/-- What a strand suffers: its invocation falls, or it is abandoned at any point. -/
inductive Suffers : Stage → List Invocation → Int → Stage → Prop where
  | fall {request : Request} {before after : Invocation} {resume : Outcome → Flow Outcome} : before.Falls after →
      Suffers (.calling request before resume) [] (-1) (.calling request after resume)
  | abandonDeciding {rest : Flow Outcome} : Suffers (.deciding rest) [] 0 .abandoned
  | abandonEntered {request entered : Request} {resume : Outcome → Flow Outcome} :
      Suffers (.calling request (.entered entered) resume) [.dropped] (-1) .abandoned
  | abandonRunning {request : Request} {task : Task} {resume : Outcome → Flow Outcome} :
      Suffers (.calling request (.running task) resume) [.running { task with pipe := task.pipe.dropHead }] 0 .abandoned

end Stage

/-- A strand, with what it has to run from its beginning and what it has heard since. -/
structure Strand where
  origin : Flow Outcome
  heard : List (Exchange Flow.interface)
  stage : Stage

/-- A strand that begins. -/
def Strand.fresh (flow : Flow Outcome) : Strand := ⟨flow, [], .deciding flow⟩

/-- All strands, the invocations that go on alone, and the count. -/
structure Traffic where
  strands : List Strand
  alone : List Invocation
  count : Int

namespace Traffic

def idle : Traffic := ⟨[], [], 0⟩

def invocations (traffic : Traffic) : List Invocation :=
  traffic.strands.flatMap (·.stage.invocations) ++ traffic.alone

/-- The program of a dispatch. -/
def chain (stack : List (Decorator Flow (Reply Source))) (context : Context) (request : Request) : Flow Outcome :=
  (Next.start stack (some Flow.handle)).run { request with context := some context }

inductive Step (handler : Handler) (stack : List (Decorator Flow (Reply Source))) : Traffic → Traffic → Prop where
  | arrive {strands : List Strand} {alone : List Invocation} {count : Int} (context : Context) (request : Request) :
      Step handler stack ⟨strands, alone, count⟩
        ⟨strands ++ [.fresh (chain stack context request)], alone, count⟩
  /-- A decorator sets something to run beside its dispatch. -/
  | branch {strands : List Strand} {alone : List Invocation} {count : Int} (flow : Flow Outcome) :
      Step handler stack ⟨strands, alone, count⟩ ⟨strands ++ [.fresh flow], alone, count⟩
  | move {earlier later : List Strand} {origin : Flow Outcome} {heard more : List (Exchange Flow.interface)}
      {before after : Stage} {alone freed : List Invocation} {count change : Int} :
      before.Moves handler alone.length more freed change after →
      Step handler stack ⟨earlier ++ ⟨origin, heard, before⟩ :: later, alone, count⟩
        ⟨earlier ++ ⟨origin, heard ++ more, after⟩ :: later, alone ++ freed, count + change⟩
  | suffer {earlier later : List Strand} {origin : Flow Outcome} {heard : List (Exchange Flow.interface)}
      {before after : Stage} {alone freed : List Invocation} {count change : Int} :
      before.Suffers freed change after →
      Step handler stack ⟨earlier ++ ⟨origin, heard, before⟩ :: later, alone, count⟩
        ⟨earlier ++ ⟨origin, heard, after⟩ :: later, alone ++ freed, count + change⟩
  | go {strands : List Strand} {earlier later : List Invocation} {before after : Invocation} {count change : Int} :
      before.Goes handler change after →
      Step handler stack ⟨strands, earlier ++ before :: later, count⟩
        ⟨strands, earlier ++ after :: later, count + change⟩

end Traffic

/-! The count. -/

namespace Invocation

variable {handler : Handler} {before after : Invocation} {change : Int}

@[simp] theorem live_nil : live [] = 0 := rfl

@[simp] theorem live_append (first second : List Invocation) : live (first ++ second) = live first + live second :=
  List.countP_append

theorem live_cons (invocation : Invocation) (rest : List Invocation) :
    live (invocation :: rest) = live [invocation] + live rest := live_append [invocation] rest

@[simp] theorem live_entered (request : Request) : live [.entered request] = 1 := rfl

@[simp] theorem live_dropped : live [.dropped] = 0 := rfl

@[simp] theorem live_running (task : Task) : live [.running task] = if task.ended then 0 else 1 := by
  cases ended : task.ended <;> simp [live, isLive, ended]

theorem ended_before {clock : Nat → Instant} {before after : Delivery} (works : Delivery.Works clock before after) :
    before.ended = false := by
  cases works <;> rfl

theorem turns_of_works (handler : Handler) {clock : Nat → Instant} {before after : Delivery}
    (works : Delivery.Works clock before after) :
    ∃ change, Turns handler (.running before.task) change (.running after.task) := by
  cases ended : after.ended with
  | true => exact ⟨_, .finish works ended⟩
  | false => exact ⟨_, .work works ended⟩

theorem Turns.live (turns : before.Turns handler change after) :
    (Invocation.live [after] : Int) = Invocation.live [before] + change := by
  cases turns with
  | start context request => rfl
  | work works ended | finish works ended => simp [Delivery.task, ended, ended_before works]

theorem Falls.live (falls : before.Falls after) :
    (Invocation.live [after] : Int) = Invocation.live [before] + -1 := by
  cases falls with
  | fall ended => simp [ended]

theorem Goes.live (goes : before.Goes handler change after) :
    (Invocation.live [after] : Int) = Invocation.live [before] + change := by
  cases goes with
  | turn turns => exact turns.live
  | fall falls => exact falls.live
  | read | drop => simp

end Invocation

namespace Stage

open Invocation

variable {handler : Handler} {index : Nat} {before after : Stage} {heard : List (Exchange Flow.interface)}
  {freed : List Invocation} {change : Int}

theorem Moves.live (moves : before.Moves handler index heard freed change after) :
    (live after.invocations + live freed : Int) = live before.invocations + change := by
  cases moves with
  | ask answer | enter | answer => simp [invocations]
  | turn turns => simpa [invocations] using turns.live
  | take taken => simp [invocations]

theorem Suffers.live (suffers : before.Suffers freed change after) :
    (live after.invocations + live freed : Int) = live before.invocations + change := by
  cases suffers with
  | fall falls => simpa [invocations] using falls.live
  | abandonDeciding | abandonEntered | abandonRunning => simp [invocations]

end Stage

namespace Traffic

open Invocation

variable {handler : Handler} {stack : List (Decorator Flow (Reply Source))} {traffic next : Traffic}

def Counted (traffic : Traffic) : Prop := traffic.count = live traffic.invocations

/-- A strand that changes and lets go of an invocation keeps the count right if the two do together. -/
theorem Counted.strand {earlier later : List Strand} {before after : Strand} {alone freed : List Invocation}
    {count change : Int} (counted : Counted ⟨earlier ++ before :: later, alone, count⟩)
    (balanced : (live after.stage.invocations + live freed : Int) = live before.stage.invocations + change) :
    Counted ⟨earlier ++ after :: later, alone ++ freed, count + change⟩ := by
  simp only [Counted, invocations, List.flatMap_append, List.flatMap_cons, live_append] at counted ⊢
  omega

theorem Counted.step (counted : traffic.Counted) (step : Step handler stack traffic next) : next.Counted := by
  cases step with
  | arrive context request => simpa [Counted, invocations, Strand.fresh, Stage.invocations] using counted
  | branch flow => simpa [Counted, invocations, Strand.fresh, Stage.invocations] using counted
  | move moves => exact counted.strand moves.live
  | suffer suffers => exact counted.strand suffers.live
  | @go strands earlier later before after count change goes =>
    have balanced := goes.live
    simp only [Counted, invocations, live_append, live_cons before later, live_cons after later] at counted ⊢
    omega

end Traffic

end Sluice
