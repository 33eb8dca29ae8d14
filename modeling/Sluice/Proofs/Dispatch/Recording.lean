import Sluice.Proofs.Chain.Transparency
import Sluice.Proofs.Dispatch.Running

/-! The trace of a dispatcher. Only tracing changes it: a span that is open stays where it is, with its name, service
and path, and its status may be recorded. So the span of an outermost instance of tracing ends up with the status of
the response that the dispatch returns, whatever the decorators after it do. -/

set_option autoImplicit false

namespace Sluice

/-- A span that was opened, whatever status is recorded by now. -/
def Trace.Holds (trace : Trace) (index : Nat) (span : Span) : Prop :=
  ∃ status, trace.spans[index]? = some { span with status }

namespace Trace

variable {trace : Trace} {index : Nat} {span : Span}

theorem openSpan_holds (trace : Trace) (span : Span) :
    (trace.openSpan span).2.Holds (trace.openSpan span).1 span := by
  refine ⟨span.status, ?_⟩
  simp [openSpan]

theorem Holds.openSpan (holds : trace.Holds index span) (other : Span) : (trace.openSpan other).2.Holds index span := by
  obtain ⟨status, found⟩ := holds
  obtain ⟨bound, -⟩ := List.getElem?_eq_some_iff.1 found
  refine ⟨status, ?_⟩
  rw [← found]
  exact List.getElem?_append_left bound

theorem Holds.mark (holds : trace.Holds index span) (mark : Mark) : (trace.mark mark).Holds index span := by
  obtain ⟨status, found⟩ := holds
  exact ⟨status, found⟩

theorem Holds.record (holds : trace.Holds index span) (place : Nat) (status : Status) :
    (trace.record place status).Holds index span := by
  obtain ⟨before, found⟩ := holds
  by_cases same : place = index
  · subst same
    refine ⟨some status, ?_⟩
    simp [Trace.record, found]
  · refine ⟨before, ?_⟩
    simp [Trace.record, found, same]

theorem Holds.record_self (holds : trace.Holds index span) (status : Status) :
    (trace.record index status).spans[index]? = some { span with status := some status } := by
  obtain ⟨before, found⟩ := holds
  simp [Trace.record, found]

end Trace

/-- A failure is answered with its own status. -/
theorem Stage.status_replyOf (outcome : Outcome) : (replyOf outcome).status = Outcome.status outcome := by
  cases outcome <;> rfl

namespace Dispatcher

variable (dispatcher : Dispatcher)

@[simp] theorem trace_note (lines : List Note) : (dispatcher.note lines).journal.trace = dispatcher.journal.trace :=
  List.foldlRecOn (motive := fun journal : Journal => journal.trace = dispatcher.journal.trace) _ _ rfl
    fun _ same _ _ => same

@[simp] theorem trace_advance (index : Nat) : (dispatcher.advance index).journal.trace = dispatcher.journal.trace := by
  unfold advance
  split
  · rfl
  · rw [trace_note]
    rfl

@[simp] theorem trace_settle : dispatcher.settle.journal.trace = dispatcher.journal.trace := by
  refine List.foldlRecOn (motive := fun turned : Dispatcher => turned.journal.trace = dispatcher.journal.trace) _ _
    rfl ?_
  intro turned same index _
  rw [trace_advance, same]

@[simp] theorem trace_takeHead (index : Nat) :
    (dispatcher.takeHead index).2.journal.trace = dispatcher.journal.trace := by
  unfold takeHead
  split
  · rfl
  · split <;> rfl

theorem trace_handle (request : Request) : (dispatcher.handle request).2.journal.trace = dispatcher.journal.trace := by
  simp [handle, enter]

theorem journal_wake (index : Nat) : (dispatcher.wake index).journal = dispatcher.journal := by
  unfold wake
  split <;> rfl

theorem trace_drop (body : Source) : (dispatcher.drop body).journal.trace = dispatcher.journal.trace := by
  cases body with
  | frames body => rfl
  | stream index =>
    simp only [drop]
    split
    · rfl
    · rw [journal_wake]

theorem trace_draw : (answer .draw dispatcher).2.journal.trace = dispatcher.journal.trace := by
  have drawn : (answer .draw dispatcher).2.journal =
      { dispatcher.journal with seed := Journal.nextSeed dispatcher.journal.seed } := rfl
  rw [drawn]

theorem holds_answer {dispatcher : Dispatcher} {index : Nat} {span : Span} (question : Flow.Ask)
    (holds : dispatcher.journal.trace.Holds index span) :
    (answer question dispatcher).2.journal.trace.Holds index span := by
  cases question with
  | handle request => rwa [answer, trace_handle]
  | discard body => rwa [answer, trace_drop]
  | note line => rwa [answer, trace_note]
  | draw => rwa [trace_draw]
  | openSpan other => exact holds.openSpan other
  | mark mark => exact holds.mark mark
  | record place status => exact holds.record place status

/-- Runs decorators with the tasks of the dispatcher under them. -/
def follow {α : Type} (dispatcher : Dispatcher) (flow : Flow α) : α × Dispatcher :=
  Program.run (I := Flow.interface) answer flow dispatcher

theorem follow_bind {α β : Type} (flow : Flow α) (next : α → Flow β) :
    dispatcher.follow (flow.bind next) = (dispatcher.follow flow).2.follow (next (dispatcher.follow flow).1) :=
  Program.run_bind flow next dispatcher

theorem holds_follow {dispatcher : Dispatcher} {index : Nat} {span : Span} {α : Type} (flow : Flow α)
    (holds : dispatcher.journal.trace.Holds index span) :
    (dispatcher.follow flow).2.journal.trace.Holds index span := by
  induction flow generalizing dispatcher with
  | done value => exact holds
  | ask question resume ih => exact ih _ (holds_answer question holds)

/-- The decision of a sampler does not touch the trace. -/
theorem trace_sample (sampler : Sampler) :
    (dispatcher.follow sampler.sample).2.journal.trace = dispatcher.journal.trace := by
  cases sampler with
  | always | never => rfl
  | rate bound => exact dispatcher.trace_draw

/-- What a sampled entry does, from its span on. -/
def keeping (tracing : Tracing) (request : Request) (next : Next Flow (Reply Source)) : Flow Outcome :=
  .ask (.openSpan (tracing.span request)) fun index => .ask (.mark .received) fun _ =>
    (next.run request).bind fun outcome =>
      .ask (.record index (Outcome.status outcome)) fun _ => .ask (.mark .sent) fun _ => .done outcome

theorem follow_decorator (tracing : Tracing) (request : Request) (next : Next Flow (Reply Source))
    (sampled : (dispatcher.follow tracing.sampler.sample).1 = true) :
    dispatcher.follow (tracing.decorator request next) =
      (dispatcher.follow tracing.sampler.sample).2.follow (keeping tracing request next) := by
  have decides : tracing.decorator request next = tracing.sampler.sample.bind fun sampled =>
      if sampled then keeping tracing request next else next.run request := rfl
  rw [decides, follow_bind, sampled, if_pos rfl]

/-- The span of a sampled entry gets the status of what the rest comes to, whatever happens inside. -/
theorem keeping_recorded (tracing : Tracing) (request : Request) (next : Next Flow (Reply Source)) :
    (dispatcher.follow (keeping tracing request next)).2.journal.trace.spans[dispatcher.journal.trace.spans.length]? =
      some { tracing.span request with
        status := some (Outcome.status (dispatcher.follow (keeping tracing request next)).1) } := by
  -- the dispatcher as the rest finds it, with the span open at its end
  obtain ⟨received, same⟩ : ∃ received, received =
      (answer (.mark .received) (answer (.openSpan (tracing.span request)) dispatcher).2).2 := ⟨_, rfl⟩
  have opened : received.journal.trace.Holds dispatcher.journal.trace.spans.length (tracing.span request) := by
    rw [same]
    exact (dispatcher.journal.trace.openSpan_holds (tracing.span request)).mark .received
  have inside := holds_follow (next.run request) opened
  have course : dispatcher.follow (keeping tracing request next) =
      (received.follow (next.run request)).2.follow (.ask (.record dispatcher.journal.trace.spans.length
        (Outcome.status (received.follow (next.run request)).1))
        fun _ => .ask (.mark .sent) fun _ => .done (received.follow (next.run request)).1) := by
    rw [same]
    exact follow_bind _ _ _
  rw [course]
  exact inside.record_self _

theorem status_dispatch (context : Context) (request : Request) :
    (dispatcher.dispatch context request).1.status =
      Outcome.status (dispatcher.follow (dispatcher.chain.run { request with context := some context })).1 := by
  rw [dispatch_eq]
  exact Stage.status_replyOf _

/-- The span of an outermost instance of tracing that samples a dispatch has the status of its response. -/
theorem outermost_recorded {dispatcher : Dispatcher} {tracing : Tracing} {rest : List (Decorator Flow (Reply Source))}
    (outermost : dispatcher.stack = tracing.decorator :: rest) (context : Context) (request : Request)
    (sampled : (dispatcher.follow tracing.sampler.sample).1 = true) :
    (dispatcher.dispatch context request).2.journal.trace.spans[dispatcher.journal.trace.spans.length]? =
      some { tracing.span { request with context := some context } with
        status := some (dispatcher.dispatch context request).1.status } := by
  have dispatched : (dispatcher.dispatch context request).2 =
      (dispatcher.follow (dispatcher.chain.run { request with context := some context })).2 := rfl
  rw [status_dispatch, dispatched, chain, Next.start, outermost, Next.ofStack, follow_decorator _ _ _ _ sampled,
    ← dispatcher.trace_sample tracing.sampler]
  exact keeping_recorded _ _ _ _

end Dispatcher

namespace Tracing

/-- Tracing anywhere in a stack. A run of the stack is a course, and without the events of tracing the courses are those
of the other decorators alone, with the same calls, requests and outcomes. They are the runs of the stack without
tracing if no decorator looks at the place it has. In a course each call of an instance is an entry, which keeps a span
and two marks around the run of the rest if it is sampled, and nothing if not. The span of an outermost instance ends
with the status of the response that the dispatch returns. -/
theorem transparent_and_truthful (stack : List Link) (handler : Option (Request → Flow Outcome)) :
    (∀ request trace outcome,
      ((Next.start (stack.map Link.decorator) handler).run request).Reaches trace (.done outcome) ↔
        ∃ events, Next.Course handler (Seat.all stack) request events outcome ∧ Event.exchanges events = trace) ∧
    (∀ request events outcome,
      Next.Course handler ((Seat.all stack).filter (·.link.isOwn)) request events outcome ↔
        ∃ full, Next.Course handler (Seat.all stack) request full outcome ∧ Event.untraced full = events) ∧
    ((∀ link ∈ stack, link.isOwn → link.decorator.Indifferent) → ∀ request trace outcome,
      ((Next.start ((stack.filter Link.isOwn).map Link.decorator) handler).run request).Reaches trace (.done outcome) ↔
        ∃ events, Next.Course handler ((Seat.all stack).filter (·.link.isOwn)) request events outcome ∧
          Event.exchanges events = trace) ∧
    (∀ request events outcome, Next.Course handler (Seat.all stack) request events outcome →
      Entered handler (Seat.all stack) events) ∧
    ∀ (dispatcher : Dispatcher) (tracing : Tracing) (rest : List Link), stack = .traced tracing :: rest →
      dispatcher.stack = stack.map Link.decorator →
      (dispatcher.follow tracing.sampler.sample).1 = true → ∀ context request,
      (dispatcher.dispatch context request).2.journal.trace.spans[dispatcher.journal.trace.spans.length]? =
        some { tracing.span { request with context := some context } with
          status := some (dispatcher.dispatch context request).1.status } := by
  refine ⟨full_reaches_iff stack, course_untraced_iff (Seat.all stack),
    fun indifferent => plain_reaches_iff indifferent, fun request events outcome course => course.entered, ?_⟩
  rintro dispatcher tracing rest rfl stacked sampled context request
  exact Dispatcher.outermost_recorded stacked context request sampled

/-- Gets over the failure of a chain without a handler, in a span. -/
def recovering : List Link := [.traced ⟨"web", .always⟩, .own (Scripted.Action.conduct "a" .recover)]

def hello : Request := ⟨"GET", ⟨none, none, "/", none⟩, "HTTP/1.1", .empty, [], none⟩

def recovered : Reply Source := (Reply.ofText Next.noHandler.statusCode Next.noHandler.message).map .frames

/-- The trace of a run in which the instance is asked about nothing but its span. -/
def recoveredTrace : List (Exchange Flow.interface) :=
  [⟨.openSpan ⟨"GET", "web", "/", none⟩, (0 : Nat)⟩, ⟨.mark .received, ()⟩,
    ⟨.record 0 recovered.status, ()⟩, ⟨.mark .sent, ()⟩]

theorem recovering_transparent :
    ((Next.start (recovering.map Link.decorator) none).run hello).Reaches recoveredTrace (.done (.ok recovered)) ∧
    (∃ trace, ((Next.start ((recovering.filter Link.isOwn).map Link.decorator) none).run hello).Reaches trace
      (.done (.ok recovered))) ∧
    (∃ events, Next.Course none (Seat.all recovering) hello events (.ok recovered) ∧
      Entered none (Seat.all recovering) events) ∧
    let dispatcher := Dispatcher.fresh Handler.failure (recovering.map Link.decorator) (0 : Int)
    (dispatcher.dispatch default hello).2.journal.trace.spans[0]? =
        some ⟨"GET", "web", "/", some (dispatcher.dispatch default hello).1.status⟩ ∧
      (dispatcher.dispatch default hello).2.journal.trace.marks = [.received, .sent] := by
  obtain ⟨runs, erases, plain, enters, outermost⟩ := transparent_and_truthful recovering none
  have indifferent : ∀ link ∈ recovering, link.isOwn → link.decorator.Indifferent := by
    intro link member own
    simp only [recovering, List.mem_cons, List.not_mem_nil, or_false] at member
    rcases member with rfl | rfl
    · cases own
    · exact Scripted.Action.conduct_indifferent "a" .recover
  have run : ((Next.start (recovering.map Link.decorator) none).run hello).Reaches recoveredTrace
      (.done (.ok recovered)) := .step (.step (.step (.step .here)))
  obtain ⟨events, course, -⟩ := (runs _ _ _).1 run
  have alone := (erases _ _ _).2 ⟨events, course, rfl⟩
  exact ⟨run, ⟨_, (plain indifferent _ _ _).2 ⟨_, alone, rfl⟩⟩, ⟨events, course, enters _ _ _ course⟩,
    outermost _ _ _ rfl rfl rfl default hello, rfl⟩

/-- Fails with what its place shows. -/
def telling : Conduct := fun _ => .ask .place fun shown => .done (.error (.notImplemented (toString shown.2)))

/-- A decorator that looks at its place is told of the instances of tracing after it. -/
theorem place_tells_of_tracing :
    ((Journal.run ((Next.start [(Scripted.Layer.noting "a" .tag).decorator, (⟨"s", .always⟩ : Tracing).decorator]
      none).run hello) .empty).2.notes.map Note.details).head? =
        some [.string "a", .string "GET", .string "Next \x7b index: 1, remaining: 1 \x7d"] ∧
    ((Journal.run ((Next.start [(Scripted.Layer.noting "a" .tag).decorator] none).run hello)
      .empty).2.notes.map Note.details).head? =
        some [.string "a", .string "GET", .string "Next \x7b index: 1, remaining: 0 \x7d"] ∧
    ¬ ∀ (stack : List Link) (handler : Option (Request → Flow Outcome)) (request : Request) (outcome : Outcome),
      ((Next.start ((stack.filter Link.isOwn).map Link.decorator) handler).run request).Reaches [] (.done outcome) →
        ∃ trace, ((Next.start (stack.map Link.decorator) handler).run request).Reaches trace (.done outcome) := by
  refine ⟨rfl, rfl, fun claimed => ?_⟩
  obtain ⟨trace, run⟩ := claimed [.own telling, .traced ⟨"s", .always⟩] none hello
    (.error (.notImplemented "0")) .here
  have told : (Next.start ([Link.own telling, .traced ⟨"s", .always⟩].map Link.decorator) none).run hello =
      .done (.error (.notImplemented "1")) := rfl
  rw [told] at run
  have same : (.error (.notImplemented "1") : Outcome) = .error (.notImplemented "0") := by
    generalize (.error (.notImplemented "0") : Outcome) = outcome at run
    cases run
    rfl
  simp at same

end Tracing

end Sluice
