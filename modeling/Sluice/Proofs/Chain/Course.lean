import Sluice.Proofs.Chain.Composition
import Sluice.Proofs.Program

/-! Runs of a chain, decorator by decorator. A decorator can ask something of its surroundings, run what follows with a
request, and look at its place; a conduct is a program of these three. A course of a chain lists who is called with
which request, what each asks, and what comes of it. The complete runs of a chain are its courses, in which a decorator
that is indifferent to its place may be shown any other. -/

set_option autoImplicit false

namespace Sluice

namespace Conduct

inductive Ask where
  | own (question : Flow.Ask)
  | rest (request : Request)
  | place

/-- A place is shown by its index and by what remains after it. -/
@[reducible] def Answer : Ask → Type
  | .own question => Flow.Answer question
  | .rest _ => Outcome
  | .place => Nat × Nat

def interface : Interface := ⟨Ask, Answer⟩

end Conduct

abbrev Conduct := Request → Program Conduct.interface Outcome

namespace Conduct

variable {α β : Type}

def lift : Flow α → Program interface α
  | .done value => .done value
  | .ask question resume => .ask (.own question) fun answer => lift (resume answer)

def rest (request : Request) : Program interface Outcome := Program.send (I := interface) (.rest request)

def follow (shown : Nat × Nat) (run : Request → Flow Outcome) : Program interface α → Flow α
  | .done value => .done value
  | .ask (.own question) resume => .ask question fun answer => follow shown run (resume answer)
  | .ask (.rest request) resume => (run request).bind fun outcome => follow shown run (resume outcome)
  | .ask .place resume => follow shown run (resume shown)

def decorator (conduct : Conduct) : Decorator Flow (Reply Source) := fun request next =>
  follow (next.index, next.remaining) next.run (conduct request)

variable {shown : Nat × Nat} {run : Request → Flow Outcome}

theorem follow_bind (program : Program interface α) (next : α → Program interface β) :
    follow shown run (program.bind next) =
      (follow shown run program).bind fun value => follow shown run (next value) := by
  induction program with
  | done value => rfl
  | ask question resume ih =>
    cases question with
    | own question => exact congrArg (Program.ask (I := Flow.interface) question) (funext ih)
    | rest request =>
      apply Eq.trans (congrArg (run request).bind (funext ih))
      exact (Program.bind_assoc _ _ _).symm
    | place => exact ih shown

theorem follow_lift (flow : Flow α) : follow shown run (lift flow) = flow := by
  induction flow with
  | done value => rfl
  | ask question resume ih => simp only [lift, follow, ih]

theorem follow_rest (request : Request) : follow shown run (rest request) = run request :=
  Program.bind_done (run request)

end Conduct

def Tracing.conduct (tracing : Tracing) : Conduct := fun request => do
  if ← Conduct.lift tracing.sampler.sample then
    let index ← Conduct.lift (Flow.openSpan (tracing.span request))
    Conduct.lift (Flow.mark .received)
    let outcome ← Conduct.rest request
    Conduct.lift (Flow.record index outcome.status)
    Conduct.lift (Flow.mark .sent)
    return outcome
  else Conduct.rest request

theorem Tracing.conduct_eq (tracing : Tracing) (request : Request) :
    tracing.conduct request = (Conduct.lift tracing.sampler.sample).bind fun sampled =>
      if sampled then
        (Conduct.lift (Flow.openSpan (tracing.span request))).bind fun index =>
          (Conduct.lift (Flow.mark .received)).bind fun _ =>
            (Conduct.rest request).bind fun outcome =>
              (Conduct.lift (Flow.record index outcome.status)).bind fun _ =>
                (Conduct.lift (Flow.mark .sent)).bind fun _ => .done outcome
      else Conduct.rest request := rfl

theorem Tracing.decorator_conduct (tracing : Tracing) : tracing.conduct.decorator = tracing.decorator := by
  funext request next
  rw [Conduct.decorator, conduct_eq, Conduct.follow_bind, Conduct.follow_lift]
  apply congrArg (Program.bind tracing.sampler.sample)
  funext sampled
  cases sampled with
  | false => exact Conduct.follow_rest request
  | true =>
    simp only [if_true, Conduct.follow_bind, Conduct.follow_lift, Conduct.follow_rest]
    rfl

namespace Scripted

open Conduct (rest lift)

def Action.conduct (tag : String) (action : Action) : Conduct := fun request =>
  match action with
  | .tag => do
    match ← rest request with
    | .ok reply => return tagged tag reply
    | .error fault => return .error fault
  | .reject cause => return .error cause
  | .respond reply => return .ok (reply.map .frames)
  | .addField name value =>
    match request.headers.appendRaw name value with
    | .ok headers => rest { request with headers }
    | .error cause => return .error (.part cause)
  | .recover => do
    match ← rest request with
    | .ok reply => return .ok reply
    | .error fault => return .ok ((Reply.ofText fault.statusCode fault.message).map .frames)
  | .twice => do
    let first ← rest probe
    lift (Flow.note ⟨"first", [.string tag, .nat (Outcome.status first).code]⟩)
    let outcome ← rest request
    lift (Flow.release first)
    return outcome
  | .setMethod name =>
    let context := { request.context.getD (Context.ofId "") with rpcMethod := some name }
    rest { request with context := some context }
  | .failAfter cause => do
    match ← rest request with
    | .ok reply =>
      lift (Flow.discard reply.body)
      return .error cause
    | .error fault => return .error fault

theorem Action.decorator_conduct (tag : String) (action : Action) (request : Request)
    (next : Next Flow (Reply Source)) :
    (action.conduct tag).decorator request next = action.perform tag request next := by
  -- where an outcome of the rest is looked at, both go on alike for each
  have looks {sent : Request} {program : Outcome → Program Conduct.interface Outcome} {flow : Outcome → Flow Outcome}
      (same : ∀ outcome, Conduct.follow (next.index, next.remaining) next.run (program outcome) = flow outcome) :
      Conduct.follow (next.index, next.remaining) next.run ((rest sent).bind program) = (next.run sent).bind flow :=
    congrArg (next.run sent).bind (funext same)
  cases action with
  | reject | respond => rfl
  | tag | recover | failAfter =>
    apply looks
    intro outcome
    cases outcome <;> rfl
  | addField name value =>
    simp only [Action.perform, Action.conduct, Conduct.decorator]
    cases request.headers.appendRaw name value with
    | ok headers => exact Conduct.follow_rest _
    | error cause => rfl
  | twice =>
    apply looks
    intro first
    apply (Conduct.follow_bind _ _).trans
    rw [Conduct.follow_lift]
    apply congrArg (Program.bind _)
    funext _
    apply looks
    intro outcome
    apply (Conduct.follow_bind _ _).trans
    rw [Conduct.follow_lift]
    rfl
  | setMethod name => exact Conduct.follow_rest _

theorem Action.conduct_indifferent (tag : String) (action : Action) : (action.conduct tag).decorator.Indifferent := by
  intro request first second same
  rw [decorator_conduct, decorator_conduct]
  exact action.perform_indifferent tag request first second same

end Scripted

/-- A decorator of a chain: one of its own kind, or an instance of tracing. -/
inductive Link where
  | own (conduct : Conduct)
  | traced (tracing : Tracing)

namespace Link

def conduct : Link → Conduct
  | .own conduct => conduct
  | .traced tracing => tracing.conduct

def decorator : Link → Decorator Flow (Reply Source)
  | .own conduct => conduct.decorator
  | .traced tracing => tracing.decorator

def isOwn : Link → Bool
  | .own _ => true
  | .traced _ => false

theorem decorator_conduct (link : Link) : link.conduct.decorator = link.decorator := by
  cases link with
  | own conduct => rfl
  | traced tracing => exact tracing.decorator_conduct

end Link

namespace Scripted

open Conduct (lift)

def noting (tag : String) (action : Action) : Conduct := fun request =>
  .ask .place fun (index, remaining) => do
    let outline : Text.Outline := .closed "Next" [("index", .nat index), ("remaining", .nat remaining)]
    lift (Flow.note ⟨"enter", [.string tag, .string request.method, .string outline.render]⟩)
    let outcome ← action.conduct tag request
    lift (Flow.note ⟨"exit", [.string tag, .nat (Outcome.status outcome).code, .bool (isOk outcome)]⟩)
    return outcome

def Layer.link : Layer → Link
  | .noting tag action => .own (Scripted.noting tag action)
  | .traced tracing => .traced tracing

theorem Layer.decorator_link (layer : Layer) : layer.link.decorator = layer.decorator := by
  cases layer with
  | traced tracing => rfl
  | noting tag action =>
    funext request next
    have performs : Conduct.follow (next.index, next.remaining) next.run (action.conduct tag request) =
        action.perform tag request next := action.decorator_conduct tag request next
    apply (Conduct.follow_bind _ _).trans
    rw [Conduct.follow_lift]
    apply congrArg (Program.bind _)
    funext _
    apply (Conduct.follow_bind _ _).trans
    rw [performs]
    apply congrArg (Program.bind _)
    funext outcome
    apply (Conduct.follow_bind _ _).trans
    rw [Conduct.follow_lift]
    rfl

end Scripted

/-- Who is called in a run: decorators and tracing by their places in the whole stack. -/
inductive Party where
  | decorator (place : Nat)
  | tracing (place : Nat)
  | handler
  deriving DecidableEq, Repr

inductive Event where
  | called (party : Party) (request : Request)
  | asked (party : Party) (exchange : Exchange Flow.interface)
  | returned (party : Party) (outcome : Outcome)

namespace Event

def party : Event → Party
  | .called party _ | .asked party _ | .returned party _ => party

def exchange? : Event → Option (Exchange Flow.interface)
  | .asked _ exchange => some exchange
  | _ => none

end Event

/-- A decorator with its place in the whole stack, and with the place that it is shown. -/
structure Seat where
  place : Nat
  shown : Nat × Nat
  link : Link

namespace Seat

def party (seat : Seat) : Party :=
  match seat.link with
  | .own _ => .decorator seat.place
  | .traced _ => .tracing seat.place

/-- The seats of a stack from a place on, as its chain shows them. -/
def ofStack (size index : Nat) : List Link → List Seat
  | [] => []
  | link :: rest => ⟨index, (index + 1, size - (index + 1)), link⟩ :: ofStack size (index + 1) rest

def all (stack : List Link) : List Seat := ofStack stack.length 0 stack

end Seat

namespace Conduct

variable {α β : Type}

/-- How a conduct goes, if the rest of the chain goes as told. -/
inductive Plays (seat : Seat) (rest : Request → List Event → Outcome → Prop) :
    Program interface α → List Event → α → Prop where
  | done {value : α} : Plays seat rest (.done value) [] value
  | own {question : Flow.Ask} {resume : Flow.Answer question → Program interface α}
      {answer : Flow.Answer question} {events : List Event} {value : α} :
      Plays seat rest (resume answer) events value →
      Plays seat rest (.ask (.own question) resume) (.asked seat.party ⟨question, answer⟩ :: events) value
  | rest {request : Request} {resume : Outcome → Program interface α} {inner events : List Event}
      {reached : Outcome} {value : α} : rest request inner reached → Plays seat rest (resume reached) events value →
      Plays seat rest (.ask (.rest request) resume) (inner ++ events) value
  | place {resume : Nat × Nat → Program interface α} {events : List Event} {value : α} :
      Plays seat rest (resume seat.shown) events value → Plays seat rest (.ask .place resume) events value

variable {run : Request → Flow Outcome} {rest : Request → List Event → Outcome → Prop}

/-- What a conduct is followed to is how it plays. -/
theorem follow_reaches_iff (seat : Seat) (runs : ∀ request trace outcome, (run request).Reaches trace (.done outcome) ↔
      ∃ events, rest request events outcome ∧ events.filterMap Event.exchange? = trace)
    (program : Program interface α) (trace : List (Exchange Flow.interface)) (value : α) :
    (follow seat.shown run program).Reaches trace (.done value) ↔
      ∃ events, Plays seat rest program events value ∧ events.filterMap Event.exchange? = trace := by
  induction program generalizing trace with
  | done value =>
    constructor
    · intro reached
      cases reached
      exact ⟨[], .done, rfl⟩
    · rintro ⟨events, plays, rfl⟩
      cases plays
      exact .here
  | ask question resume ih =>
    cases question with
    | own question =>
      constructor
      · intro reached
        cases reached with
        | @step _ _ answer _ _ reached =>
          obtain ⟨events, plays, rfl⟩ := (ih answer _).1 reached
          exact ⟨_, .own plays, rfl⟩
      · rintro ⟨events, plays, rfl⟩
        cases plays with
        | @own _ _ answer _ _ plays => exact .step ((ih answer _).2 ⟨_, plays, rfl⟩)
    | rest request =>
      constructor
      · intro reached
        obtain ⟨first, reply, second, inside, after, rfl⟩ := (Program.reaches_bind_iff _ _).1 reached
        obtain ⟨inner, goes, rfl⟩ := (runs _ _ _).1 inside
        obtain ⟨events, plays, rfl⟩ := (ih reply _).1 after
        exact ⟨inner ++ events, .rest goes plays, List.filterMap_append⟩
      · rintro ⟨events, plays, rfl⟩
        cases plays with
        | @rest _ _ inner events reply _ goes plays =>
          refine (Program.reaches_bind_iff _ _).2 ⟨_, reply, _, (runs _ _ _).2 ⟨inner, goes, rfl⟩,
            (ih reply _).2 ⟨events, plays, rfl⟩, List.filterMap_append⟩
    | place =>
      constructor
      · intro reached
        obtain ⟨events, plays, rfl⟩ := (ih _ _).1 reached
        exact ⟨_, .place plays, rfl⟩
      · rintro ⟨events, plays, rfl⟩
        cases plays with
        | place plays => exact (ih _ _).2 ⟨_, plays, rfl⟩

end Conduct

namespace Event

/-- A call with all that happens in it. -/
def call (party : Party) (request : Request) (inner : List Event) (outcome : Outcome) : List Event :=
  .called party request :: (inner ++ [.returned party outcome])

def exchanges (events : List Event) : List (Exchange Flow.interface) := events.filterMap exchange?

theorem exchanges_call (party : Party) (request : Request) (inner : List Event) (outcome : Outcome) :
    exchanges (call party request inner outcome) = exchanges inner := by
  simp [exchanges, call, List.filterMap_cons, List.filterMap_append, exchange?]

theorem exchanges_asked (party : Party) (trace : List (Exchange Flow.interface)) :
    exchanges (trace.map (.asked party)) = trace := by
  simp [exchanges, List.filterMap_map, Function.comp_def, exchange?]

end Event

variable {handler : Option (Request → Flow Outcome)}

/-- How a chain comes to its outcome: every decorator plays with the chain after it, down to the handler if there is
one. -/
def Next.Course (handler : Option (Request → Flow Outcome)) : List Seat → Request → List Event → Outcome → Prop
  | [], request, events, outcome =>
    match handler with
    | none => events = [] ∧ outcome = .error Next.noHandler
    | some handle => ∃ trace, (handle request).Reaches trace (.done outcome) ∧
        events = Event.call .handler request (trace.map (.asked .handler)) outcome
  | seat :: rest, request, events, outcome =>
    ∃ inner, Conduct.Plays seat (Next.Course handler rest) (seat.link.conduct request) inner outcome ∧
      events = Event.call seat.party request inner outcome

/-- Every decorator of a chain is shown the place it has, unless it is indifferent to that. -/
def Seated (size : Nat) : Nat → List Seat → Prop
  | _, [] => True
  | index, seat :: rest =>
    (seat.shown = (index + 1, size - (index + 1)) ∨ seat.link.decorator.Indifferent) ∧ Seated size (index + 1) rest

theorem seated_ofStack (size index : Nat) (stack : List Link) : Seated size index (Seat.ofStack size index stack) := by
  induction stack generalizing index with
  | nil => trivial
  | cons link rest ih => exact ⟨.inl rfl, ih (index + 1)⟩

theorem seated_of_indifferent (size index : Nat) {seats : List Seat}
    (indifferent : ∀ seat ∈ seats, seat.link.decorator.Indifferent) : Seated size index seats := by
  induction seats generalizing index with
  | nil => trivial
  | cons seat rest ih =>
    obtain ⟨first, others⟩ := List.forall_mem_cons.1 indifferent
    exact ⟨.inr first, ih (index + 1) others⟩

theorem link_ofStack (size index : Nat) (stack : List Link) :
    (Seat.ofStack size index stack).map Seat.link = stack := by
  induction stack generalizing index with
  | nil => rfl
  | cons link rest ih => rw [Seat.ofStack, List.map_cons, ih]

theorem link_all (stack : List Link) : (Seat.all stack).map Seat.link = stack := link_ofStack _ _ _

theorem length_all (stack : List Link) : (Seat.all stack).length = stack.length := by
  rw [← List.length_map Seat.link, link_all]

theorem Conduct.decorator_shown (conduct : Conduct) (request : Request) (shown : Nat × Nat)
    (run : Request → Flow Outcome) :
    conduct.decorator request ⟨shown.1, shown.1 + shown.2, run⟩ = Conduct.follow shown run (conduct request) := by
  have remaining : (⟨shown.1, shown.1 + shown.2, run⟩ : Next Flow (Reply Source)).remaining = shown.2 :=
    Nat.add_sub_cancel_left _ _
  rw [Conduct.decorator, remaining]

theorem ofStack_reaches_iff {size index : Nat} {seats : List Seat} (seated : Seated size index seats)
    (request : Request) (trace : List (Exchange Flow.interface)) (outcome : Outcome) :
    ((Next.ofStack handler size index (seats.map (·.link.decorator))).run request).Reaches trace (.done outcome) ↔
      ∃ events, Next.Course handler seats request events outcome ∧ Event.exchanges events = trace := by
  induction seats generalizing index request trace outcome with
  | nil =>
    cases handler with
    | none =>
      constructor
      · intro reached
        cases reached
        exact ⟨[], ⟨rfl, rfl⟩, rfl⟩
      · rintro ⟨_, ⟨rfl, rfl⟩, rfl⟩
        exact .here
    | some handle =>
      constructor
      · intro reached
        refine ⟨_, ⟨trace, reached, rfl⟩, ?_⟩
        rw [Event.exchanges_call, Event.exchanges_asked]
      · rintro ⟨_, ⟨asked, reached, rfl⟩, rfl⟩
        rw [Event.exchanges_call, Event.exchanges_asked]
        exact reached
  | cons seat rest ih =>
    obtain ⟨place, later⟩ := seated
    -- a decorator that is indifferent may as well have been shown what the seat says
    have follows : seat.link.decorator request (Next.ofStack handler size (index + 1) (rest.map (·.link.decorator))) =
        Conduct.follow seat.shown (Next.ofStack handler size (index + 1) (rest.map (·.link.decorator))).run
          (seat.link.conduct request) := by
      rcases place with same | indifferent
      · rw [← Link.decorator_conduct, Conduct.decorator, same, Next.remaining, Next.ofStack_index, Next.ofStack_size]
      · rw [← Conduct.decorator_shown, Link.decorator_conduct]
        exact indifferent request _ _ rfl
    have plays := Conduct.follow_reaches_iff seat (ih later) (seat.link.conduct request) trace outcome
    rw [List.map_cons, Next.ofStack]
    simp only [follows]
    refine plays.trans ?_
    constructor
    · rintro ⟨inner, played, rfl⟩
      exact ⟨_, ⟨inner, played, rfl⟩, Event.exchanges_call _ _ _ _⟩
    · rintro ⟨_, ⟨inner, played, rfl⟩, rfl⟩
      exact ⟨inner, played, (Event.exchanges_call _ _ _ _).symm⟩

/-- The complete runs of a stack are its courses. -/
theorem start_reaches_iff {seats : List Seat} (seated : Seated seats.length 0 seats) (request : Request)
    (trace : List (Exchange Flow.interface)) (outcome : Outcome) :
    ((Next.start ((seats.map Seat.link).map Link.decorator) handler).run request).Reaches trace (.done outcome) ↔
      ∃ events, Next.Course handler seats request events outcome ∧ Event.exchanges events = trace := by
  rw [Next.start, List.length_map, List.length_map, List.map_map]
  exact ofStack_reaches_iff seated request trace outcome

end Sluice
