import Sluice.Proofs.Dispatch.Answering

/-! A dispatcher that runs. It answers one request after another, and lets its tasks go on when it settles or a body is
read. Whatever is called on it takes steps of the traffic, with one strand for each dispatch and its tasks as the
invocations that go on alone; no task of it falls. So all that holds of traffic at all times holds of it. -/

set_option autoImplicit false

namespace Sluice

theorem Pipe.dropWriter_lets_go (pipe : Pipe) :
    pipe.dropWriter.holdsHead = false ∧ pipe.dropWriter.holdsBody = false := by
  obtain ⟨holdsHead, holdsBody, finished, slot, receives, buffer, ended⟩ := pipe
  cases holdsHead <;> cases slot <;> exact ⟨rfl, rfl⟩

namespace Task

/-- A task that has ended has nothing left to do and holds nothing. -/
def Tidy (task : Task) : Prop :=
  task.ended = true → task.program = .done () ∧ task.pipe.holdsHead = false ∧ task.pipe.holdsBody = false

/-- What a task of a dispatcher does or suffers: it works, or its body is read or dropped. -/
inductive Goes : Task → Task → Prop where
  | work {clock : Nat → Instant} {before after : Delivery} : Delivery.Works clock before after →
      Goes before.task after.task
  | read {task : Task} : Goes task { task with pipe := task.pipe.read.2 }
  | drop {task : Task} : Goes task { task with pipe := task.pipe.dropBody }

variable {task before after : Task}

theorem Goes.tidy (goes : Goes before after) (tidy : before.Tidy) : after.Tidy := by
  cases goes with
  | work works =>
    intro ended
    cases works with
    | answer free => cases ended
    | @close scene free => exact ⟨rfl, scene.pipe.dropWriter_lets_go⟩
  | read =>
    have read : before.pipe.read = (before.pipe.read.1, before.pipe.read.2) := rfl
    rw [Pipe.read_after read]
    exact tidy
  | drop => exact tidy

theorem Goes.ended (goes : Goes before after) (ended : before.ended = true) : after.ended = true := by
  cases goes with
  | work works => cases (Invocation.ended_before works).symm.trans ended
  | read | drop => exact ended

theorem tidy_after (course : Relation.ReflTransGen Goes before after) (tidy : before.Tidy) : after.Tidy :=
  kept_throughout course tidy fun tidy goes => goes.tidy tidy

theorem ended_after (course : Relation.ReflTransGen Goes before after) (ended : before.ended = true) :
    after.ended = true := by
  induction course with
  | refl => exact ended
  | tail _ goes ih => exact goes.ended ih

/-- A task that goes on as far as it can works in a delivery. -/
theorem advance_works (clock : Instant) (going : task.ended = false) :
    ∃ first last : Delivery, first.task = task ∧ last.task = (task.advance clock).1 ∧
      Relation.ReflTransGen (Delivery.Works fun _ => clock) first last := by
  obtain ⟨program, pipe, ended⟩ := task
  cases going
  obtain ⟨last, works, same⟩ := Delivery.advance_steps clock program ⟨pipe, Listener.fresh, 0⟩
  exact ⟨_, last, rfl, same, works⟩

theorem advance_goes (clock : Instant) (task : Task) : Relation.ReflTransGen Goes task (task.advance clock).1 := by
  cases ended : task.ended with
  | true =>
    rw [advance, if_pos ended]
  | false =>
    obtain ⟨first, last, rfl, same, works⟩ := advance_works clock ended
    rw [← same]
    exact works.lift Delivery.task fun _ _ => .work

/-- A task stops at its end, or where its pipe is full. -/
theorem advance_stops (clock : Instant) (task : Task) :
    (task.advance clock).1.ended = true ∨ (task.advance clock).1.pipe.isFull = true := by
  obtain ⟨program, pipe, ended⟩ := task
  cases ended with
  | true => exact .inl rfl
  | false =>
    induction program generalizing pipe with
    | done value => cases full : pipe.isFull <;> simp [advance, Writing.advance, close, full]
    | ask question resume ih =>
      cases full : pipe.isFull with
      | true => simp [advance, Writing.advance, close, full]
      | false => simpa [advance, Writing.advance, full] using ih _ _

theorem readBuffer_goes (program : Writing Unit) (ended : Bool) (pipe : Pipe) :
    Relation.ReflTransGen Goes ⟨program, pipe, ended⟩
      ⟨program, { pipe with buffer := (readBuffer pipe.buffer).2.2 }, ended⟩ := by
  induction frames : pipe.buffer generalizing pipe with
  | nil =>
    have same : { pipe with buffer := [] } = pipe := by rw [← frames]
    rw [readBuffer, same]
  | cons frame rest ih =>
    have reads : Goes ⟨program, pipe, ended⟩ ⟨program, { pipe with buffer := rest }, ended⟩ := by
      have reads : Goes ⟨program, pipe, ended⟩ _ := .read
      rwa [Pipe.read_cons frames] at reads
    cases frame with
    | error cause => exact .single reads
    | ok bytes => exact .head reads (ih { pipe with buffer := rest } rfl)

theorem readBuffer_all {chunks : Chunks} (whole : (readBuffer chunks).2.1 = false) : (readBuffer chunks).2.2 = [] := by
  induction chunks with
  | nil => rfl
  | cons frame rest ih =>
    cases frame with
    | error cause => cases whole
    | ok bytes => exact ih whole

theorem Goes.answer {question : Writer.Ask} {resume : Writer.Answer question → Writing Unit} {pipe : Pipe}
    (free : pipe.isFull = false) (clock : Instant) :
    Goes ⟨.ask question resume, pipe, false⟩
      ⟨resume (pipe.answer clock question).1, (pipe.answer clock question).2, false⟩ :=
  have works : Delivery.Works (fun _ => clock) ⟨_, false, ⟨pipe, Listener.fresh, 0⟩⟩ _ := .answer free
  .work works

theorem Goes.close {pipe : Pipe} (free : pipe.isFull = false) :
    Goes ⟨.done (), pipe, false⟩ ⟨.done (), pipe.dropWriter, true⟩ :=
  have works : Delivery.Works (fun _ => (0 : Int)) ⟨_, false, ⟨pipe, Listener.fresh, 0⟩⟩ _ := .close free
  .work works

/-- A task is read out while it works on. -/
theorem readOut_goes (clock : Instant) (program : Writing Unit) (pipe : Pipe) :
    Relation.ReflTransGen Goes ⟨program, pipe, false⟩ (readOut clock program pipe).2.1 := by
  induction program generalizing pipe with
  | done value =>
    refine (readBuffer_goes _ _ pipe).trans ?_
    -- a failure ends the reading with frames left, and the task may stand before a full pipe
    cases failed : (readBuffer pipe.buffer).2.1 with
    | true =>
      cases full : Pipe.isFull { pipe with buffer := (readBuffer pipe.buffer).2.2 } with
      | true => simpa [readOut, failed, Task.close, full] using Relation.ReflTransGen.refl
      | false => simpa [readOut, failed, Task.close, full] using Relation.ReflTransGen.single (Goes.close full)
    | false =>
      have free : Pipe.isFull { pipe with buffer := (readBuffer pipe.buffer).2.2 } = false := by
        simp [Pipe.isFull, readBuffer_all failed]
      simpa [readOut, failed] using (Relation.ReflTransGen.single (Goes.close free)).tail Goes.read
  | ask question resume ih =>
    refine (readBuffer_goes _ _ pipe).trans ?_
    cases failed : (readBuffer pipe.buffer).2.1 with
    | true => simpa [readOut, failed] using advance_goes clock _
    | false =>
      have free : Pipe.isFull { pipe with buffer := (readBuffer pipe.buffer).2.2 } = false := by
        simp [Pipe.isFull, readBuffer_all failed]
      simpa [readOut, failed] using Relation.ReflTransGen.head (Goes.answer free clock) (ih _ _)

theorem close_let_go {pipe : Pipe} (sent : pipe.holdsHead = false) (let_go : pipe.holdsBody = false) :
    { close ⟨.done (), pipe, false⟩ with ended := true } = (⟨.done (), pipe, true⟩ : Task) := by
  have same : { pipe with holdsBody := false } = pipe := by rw [← let_go]
  cases full : pipe.isFull with
  | true => simp [close, full]
  | false => simp [close, full, Pipe.dropWriter_sent sent, same]

/-- A task that has ended is only read. -/
theorem readOut_ended (clock : Instant) {pipe : Pipe} (sent : pipe.holdsHead = false)
    (let_go : pipe.holdsBody = false) :
    Relation.ReflTransGen Goes ⟨.done (), pipe, true⟩ { (readOut clock (.done ()) pipe).2.1 with ended := true } := by
  obtain ⟨holdsHead, holdsBody, finished, slot, receives, buffer, ended⟩ := pipe
  cases sent
  cases let_go
  refine (readBuffer_goes _ _ _).trans ?_
  cases failed : (readBuffer buffer).2.1 with
  | true => simp [readOut, failed, close_let_go, Relation.ReflTransGen.refl]
  | false => simpa [readOut, failed, Pipe.dropWriter] using Relation.ReflTransGen.single Goes.read

theorem readOut_course (clock : Instant) (tidy : task.Tidy) :
    Relation.ReflTransGen Goes task { (readOut clock task.program task.pipe).2.1 with
      ended := (readOut clock task.program task.pipe).2.1.ended || task.ended } := by
  obtain ⟨program, pipe, ended⟩ := task
  cases ended with
  | false => simpa using readOut_goes clock program pipe
  | true =>
    obtain ⟨rfl, sent, let_go⟩ := tidy rfl
    simpa using readOut_ended clock sent let_go

end Task

namespace Traffic

open Invocation

variable {handler : Handler} {stack : List (Decorator Flow (Reply Source))}

abbrev Reached (handler : Handler) (stack : List (Decorator Flow (Reply Source))) : Traffic → Prop :=
  Relation.ReflTransGen (Step handler stack) idle

theorem goes_alone (handler : Handler) {before after : Task} (goes : Task.Goes before after) :
    ∃ change, Goes handler (.running before) change (.running after) := by
  cases goes with
  | work works =>
    obtain ⟨change, turns⟩ := turns_of_works handler works
    exact ⟨change, .turn turns⟩
  | read => exact ⟨0, .read⟩
  | drop => exact ⟨0, .drop⟩

/-- Where each step changes the count by as much as the invocations that live, a run of steps does too. -/
theorem counted_steps {goes : Task → Task → Prop} (state : Task → Int → Traffic)
    (step : ∀ {before after : Task}, goes before after → ∃ change : Int,
      (live [.running after] : Int) = live [.running before] + change ∧
        ∀ count, Step handler stack (state before count) (state after (count + change)))
    {before after : Task} (course : Relation.ReflTransGen goes before after) (count : Int) :
    Relation.ReflTransGen (Step handler stack) (state before count)
      (state after (count + (live [.running after] - live [.running before]))) := by
  induction course with
  | refl => simp [Relation.ReflTransGen.refl]
  | @tail middle after _ last ih =>
    obtain ⟨change, balanced, step⟩ := step last
    have counts : count + ((live [.running after] : Int) - live [.running before]) =
        count + (live [.running middle] - live [.running before]) + change := by
      omega
    rw [counts]
    exact ih.tail (step _)

theorem alone_steps (strands : List Strand) (earlier later : List Invocation) {before after : Task}
    (course : Relation.ReflTransGen Task.Goes before after) (count : Int) :
    Relation.ReflTransGen (Step handler stack) ⟨strands, earlier ++ .running before :: later, count⟩
      ⟨strands, earlier ++ .running after :: later, count + (live [.running after] - live [.running before])⟩ := by
  refine counted_steps (fun task count => ⟨strands, earlier ++ .running task :: later, count⟩) ?_ course count
  intro before after goes
  obtain ⟨change, goes⟩ := goes_alone handler goes
  exact ⟨change, goes.live, fun count => .go goes⟩

/-- A move that hears nothing and lets nothing go. -/
theorem move_step {earlier later : List Strand} {origin : Flow Outcome} {heard : List (Exchange Flow.interface)}
    {before after : Stage} {alone : List Invocation} {change : Int}
    (moves : before.Moves handler alone.length [] [] change after) (count : Int) :
    Step handler stack ⟨earlier ++ ⟨origin, heard, before⟩ :: later, alone, count⟩
      ⟨earlier ++ ⟨origin, heard, after⟩ :: later, alone, count + change⟩ := by
  simpa only [List.append_nil] using Step.move moves

/-- A task that a strand waits for. -/
theorem strand_steps (earlier later : List Strand) (origin : Flow Outcome) (heard : List (Exchange Flow.interface))
    (request : Request) (resume : Outcome → Flow Outcome) (alone : List Invocation) {clock : Nat → Instant}
    {first last : Delivery} (works : Relation.ReflTransGen (Delivery.Works clock) first last) (count : Int) :
    Relation.ReflTransGen (Step handler stack)
      ⟨earlier ++ ⟨origin, heard, .calling request (.running first.task) resume⟩ :: later, alone, count⟩
      ⟨earlier ++ ⟨origin, heard, .calling request (.running last.task) resume⟩ :: later, alone,
        count + (live [.running last.task] - live [.running first.task])⟩ := by
  have course : Relation.ReflTransGen (fun before after => ∃ change, Turns handler (.running before) change
      (.running after)) first.task last.task :=
    works.lift Delivery.task fun _ _ => turns_of_works handler
  refine counted_steps (fun task count =>
    ⟨earlier ++ ⟨origin, heard, .calling request (.running task) resume⟩ :: later, alone, count⟩) ?_ course count
  rintro before after ⟨change, turns⟩
  exact ⟨change, turns.live, move_step (.turn turns)⟩

/-- A strand that hands a request to the handler: it enters, the task begins and works, and its head is taken. -/
theorem handle_steps (strands : List Strand) (origin : Flow Outcome) (heard : List (Exchange Flow.interface))
    {request : Request} (resume : Outcome → Flow Outcome) (alone : List Invocation) (count : Int) {context : Context}
    {clock : Nat → Instant} {first last : Delivery} {head : Head} {streams : Bool} {pipe : Pipe} {outcome : Outcome}
    (started : first.task = Task.start handler (request.context.getD context) request)
    (works : Relation.ReflTransGen (Delivery.Works clock) first last)
    (taken : last.task.pipe.takeHead? = (some (head, streams), pipe))
    (same : outcome = .ok ⟨head.status, head.headers, if streams then .stream alone.length else .frames []⟩) :
    Relation.ReflTransGen (Step handler stack)
      ⟨strands ++ [⟨origin, heard, .deciding (.ask (I := Flow.interface) (.handle request) resume)⟩], alone, count⟩
      ⟨strands ++ [⟨origin, heard ++ [⟨.handle request, outcome⟩], .deciding (resume outcome)⟩],
        alone ++ [.running { last.task with pipe }], count + live [.running last.task]⟩ := by
  have one : (live [.running first.task] : Int) = 1 := by
    rw [started]
    rfl
  have counts : count + (live [.running last.task] : Int) =
      count + 1 + 0 + (live [.running last.task] - live [.running first.task]) + 0 := by
    omega
  have begins : Step handler stack
      ⟨strands ++ [⟨origin, heard, .calling request (.entered request) resume⟩], alone, count + 1⟩
      ⟨strands ++ [⟨origin, heard, .calling request (.running first.task) resume⟩], alone, count + 1 + 0⟩ := by
    rw [started]
    exact move_step (.turn (.start context request)) _
  rw [counts]
  exact .head (move_step .enter count) (.head begins
    ((strand_steps strands [] origin heard request resume alone works _).tail (.move (.take taken same))))

end Traffic

namespace Dispatcher

open Invocation

variable {handler : Handler} {stack : List (Decorator Flow (Reply Source))} {dispatcher : Dispatcher}
  {strands : List Strand} {index : Nat}

/-- A dispatcher as traffic: the strands are what it has dispatched, its tasks go on alone. -/
def traffic (dispatcher : Dispatcher) (strands : List Strand) : Traffic :=
  ⟨strands, dispatcher.tasks.map .running, dispatcher.inFlight⟩

/-- All that the dispatcher has done so far are steps of traffic. -/
structure Admitted (handler : Handler) (stack : List (Decorator Flow (Reply Source))) (dispatcher : Dispatcher)
    (strands : List Strand) : Prop where
  handled : dispatcher.handler = handler
  stacked : dispatcher.stack = stack
  reached : Traffic.Reached handler stack (dispatcher.traffic strands)
  tidy : ∀ task ∈ dispatcher.tasks, task.Tidy

namespace Admitted

theorem fresh (handler : Handler) (stack : List (Decorator Flow (Reply Source))) (clock : Instant) :
    Admitted handler stack (Dispatcher.fresh handler stack clock) [] := ⟨rfl, rfl, .refl, List.forall_mem_nil _⟩

theorem counted (admitted : Admitted handler stack dispatcher strands) : (dispatcher.traffic strands).Counted :=
  kept_throughout admitted.reached (rfl : Traffic.idle.Counted) Traffic.Counted.step

/-- A task that has not ended is among those that are counted. -/
theorem counts_task (admitted : Admitted handler stack dispatcher strands) {task : Task}
    (member : task ∈ dispatcher.tasks) : live [.running task] ≤ dispatcher.inFlight := by
  obtain ⟨earlier, later, tasks⟩ := List.append_of_mem member
  have counted := admitted.counted
  simp only [traffic, Traffic.Counted, Traffic.invocations, tasks, List.map_append, List.map_cons, live_append,
    live_cons (.running task) (later.map .running)] at counted
  omega

/-- A task that goes on is put back; it counts no longer if it has ended by now. -/
theorem replaceTask (admitted : Admitted handler stack dispatcher strands) {before after : Task}
    (present : dispatcher.tasks[index]? = some before) (course : Relation.ReflTransGen Task.Goes before after) :
    Admitted handler stack (dispatcher.replaceTask index before after) strands := by
  obtain ⟨bound, found⟩ := List.getElem?_eq_some_iff.1 present
  have member : before ∈ dispatcher.tasks := found ▸ List.getElem_mem bound
  have counts := admitted.counts_task member
  have ended := Task.ended_after course
  have inFlight : ((dispatcher.replaceTask index before after).inFlight : Int) =
      dispatcher.inFlight + (live [.running after] - live [.running before]) := by
    cases first : before.ended <;> cases last : after.ended <;> simp_all [Dispatcher.replaceTask]
    omega
  obtain ⟨earlier, later, tasks, -, set⟩ := @List.exists_of_set _ index after dispatcher.tasks bound
  rw [found] at tasks
  have steps : Relation.ReflTransGen (Traffic.Step handler stack) _ _ :=
    Traffic.alone_steps strands (earlier.map .running) (later.map .running) course dispatcher.inFlight
  rw [← inFlight, ← List.map_cons, ← List.map_append, ← tasks, ← List.map_cons, ← List.map_append, ← set] at steps
  refine ⟨admitted.handled, admitted.stacked, admitted.reached.trans steps, ?_⟩
  intro task changed
  rcases List.mem_or_eq_of_mem_set changed with old | rfl
  · exact admitted.tidy task old
  · exact Task.tidy_after course (admitted.tidy before member)

/-- Reading and dropping leave the count alone. -/
theorem replacePipe (admitted : Admitted handler stack dispatcher strands) {task : Task} {pipe : Pipe}
    (present : dispatcher.tasks[index]? = some task) (goes : Task.Goes task { task with pipe }) :
    Admitted handler stack { dispatcher with tasks := dispatcher.tasks.set index { task with pipe } } strands := by
  have replaced := admitted.replaceTask present (.single goes)
  cases ended : task.ended <;> simpa [Dispatcher.replaceTask, ended] using replaced

theorem journal (admitted : Admitted handler stack dispatcher strands) (journal : Journal) :
    Admitted handler stack { dispatcher with journal } strands :=
  ⟨admitted.handled, admitted.stacked, admitted.reached, admitted.tidy⟩

theorem note (admitted : Admitted handler stack dispatcher strands) (lines : List Note) :
    Admitted handler stack (dispatcher.note lines) strands := admitted.journal _

theorem wake (admitted : Admitted handler stack dispatcher strands) (index : Nat) :
    Admitted handler stack (dispatcher.wake index) strands := by
  unfold Dispatcher.wake
  split
  · exact admitted
  · exact ⟨admitted.handled, admitted.stacked, admitted.reached, admitted.tidy⟩

theorem advance (admitted : Admitted handler stack dispatcher strands) (index : Nat) :
    Admitted handler stack (dispatcher.advance index) strands := by
  unfold Dispatcher.advance
  split
  · exact admitted
  · next task present => exact (admitted.replaceTask present (task.advance_goes _)).note _

theorem settle (admitted : Admitted handler stack dispatcher strands) :
    Admitted handler stack dispatcher.settle strands := by
  have quiet : Admitted handler stack { dispatcher with woken := [] } strands :=
    ⟨admitted.handled, admitted.stacked, admitted.reached, admitted.tidy⟩
  apply List.foldlRecOn (motive := fun dispatcher => Admitted handler stack dispatcher strands) _ _ quiet
  intro dispatcher admitted index _
  exact admitted.advance index

theorem drop (admitted : Admitted handler stack dispatcher strands) (body : Source) :
    Admitted handler stack (dispatcher.drop body) strands := by
  unfold Dispatcher.drop
  split
  · exact admitted
  · split
    · exact admitted
    · next task present => exact (admitted.replacePipe present .drop).wake _

theorem read (admitted : Admitted handler stack dispatcher strands) (body : Source) :
    Admitted handler stack (dispatcher.read body).2.2 strands := by
  unfold Dispatcher.read
  split
  · exact admitted
  · split
    · exact admitted
    · next task present => exact (admitted.replacePipe present .read).wake _

theorem readOut (admitted : Admitted handler stack dispatcher strands) (body : Source) :
    Admitted handler stack (dispatcher.readOut body).2.2 strands := by
  unfold Dispatcher.readOut
  split
  · exact admitted
  · split
    · exact admitted
    · next task present =>
      have tidy := admitted.tidy task (List.mem_of_getElem? present)
      exact (admitted.replaceTask present (Task.readOut_course _ tidy)).note _

end Admitted

/-- A new task goes on until its head is there. -/
theorem started_handed (clock : Instant) (handler : Handler) (context : Context) (request : Request) :
    ((Task.start handler context request).advance clock).1.pipe.Handed := by
  obtain ⟨first, last, started, advanced, works⟩ := Task.advance_works clock
    (rfl : (Task.start handler context request).ended = false)
  have awaited := Awaited.throughout (started ▸ .inl ⟨rfl, rfl⟩) works
  rw [advanced] at awaited
  rcases awaited with ⟨fresh, going⟩ | handed
  · rcases Task.advance_stops clock (Task.start handler context request) with ended | full
    · rw [going] at ended
      cases ended
    · rw [fresh] at full
      cases full
  · exact handed

/-- The handler is entered, and its task goes on as far as it can. -/
theorem enter_advance (dispatcher : Dispatcher) (request : Request) :
    ∃ context journal, (dispatcher.enter request).2.advance (dispatcher.enter request).1 =
      { dispatcher with
        tasks := dispatcher.tasks ++
          [((Task.start dispatcher.handler (request.context.getD context) request).advance dispatcher.clock).1]
        inFlight := dispatcher.inFlight + live [.running
          ((Task.start dispatcher.handler (request.context.getD context) request).advance dispatcher.clock).1]
        journal } := by
  let task := Task.start dispatcher.handler (request.context.getD (freshContext dispatcher.journal)) request
  refine ⟨freshContext dispatcher.journal,
    (task.advance dispatcher.clock).2.foldl Journal.note dispatcher.journal, ?_⟩
  have going : task.ended = false := rfl
  cases ended : (task.advance dispatcher.clock).1.ended <;>
    simp [enter, Dispatcher.advance, replaceTask, note, going, ended, task]

theorem takeHead_ready {task : Task} {head : Head} {streams : Bool} {pipe : Pipe}
    (present : dispatcher.tasks[index]? = some task) (taken : task.pipe.takeHead? = (some (head, streams), pipe)) :
    dispatcher.takeHead index =
      (⟨head.status, head.headers, if streams then .stream index else .frames []⟩,
        { dispatcher with tasks := dispatcher.tasks.set index { task with pipe } }) := by
  simp [takeHead, present, taken]

/-- A request is answered by the head that its task has come to. -/
theorem handle_eq (dispatcher : Dispatcher) (request : Request) :
    ∃ context advanced head streams pipe journal,
      advanced = ((Task.start dispatcher.settle.handler (request.context.getD context) request).advance
        dispatcher.settle.clock).1 ∧
      advanced.pipe.takeHead? = (some (head, streams), pipe) ∧
      dispatcher.handle request =
        (⟨head.status, head.headers, if streams then .stream dispatcher.settle.tasks.length else .frames []⟩,
          { dispatcher.settle with
            tasks := dispatcher.settle.tasks ++ [{ advanced with pipe }]
            inFlight := dispatcher.settle.inFlight + live [.running advanced]
            journal }) := by
  obtain ⟨context, journal, entered⟩ := dispatcher.settle.enter_advance request
  obtain ⟨-, head, streams, ready⟩ := started_handed dispatcher.settle.clock dispatcher.settle.handler
    (request.context.getD context) request
  refine ⟨context, _, head, streams, _, journal, rfl, Pipe.takeHead?_ready ready, ?_⟩
  have index : (dispatcher.settle.enter request).1 = dispatcher.settle.tasks.length := rfl
  rw [index] at entered
  simp only [handle]
  rw [index, entered, takeHead_ready List.getElem?_concat_length (Pipe.takeHead?_ready ready)]
  simp

theorem dispatch_eq (dispatcher : Dispatcher) (context : Context) (request : Request) :
    dispatcher.dispatch context request =
      let ended := Program.run (I := Flow.interface) answer (Traffic.chain dispatcher.stack context request) dispatcher
      (Stage.replyOf ended.1, ended.2) := by
  simp only [dispatch]
  rfl

namespace Admitted

variable {origin : Flow Outcome} {heard : List (Exchange Flow.interface)}

/-- A dispatch that hands a request to the handler goes on with what the handler answers. -/
theorem handle {request : Request} {resume : Outcome → Flow Outcome}
    (admitted : Admitted handler stack dispatcher
      (strands ++ [⟨origin, heard, .deciding (.ask (I := Flow.interface) (.handle request) resume)⟩])) :
    Admitted handler stack (dispatcher.handle request).2
      (strands ++ [⟨origin, heard ++ [⟨.handle request, .ok (dispatcher.handle request).1⟩],
        .deciding (resume (.ok (dispatcher.handle request).1))⟩]) := by
  have settled := admitted.settle
  obtain rfl := settled.handled
  obtain ⟨context, advanced, head, streams, pipe, journal, rfl, taken, same⟩ := dispatcher.handle_eq request
  obtain ⟨first, last, started, advanced, works⟩ := Task.advance_works dispatcher.settle.clock
    (rfl : (Task.start dispatcher.settle.handler (request.context.getD context) request).ended = false)
  rw [same]
  rw [← advanced] at taken ⊢
  refine ⟨rfl, settled.stacked, settled.reached.trans ?_, ?_⟩
  · have steps : Relation.ReflTransGen (Traffic.Step dispatcher.settle.handler stack) _ _ :=
      Traffic.handle_steps strands origin heard resume (dispatcher.settle.tasks.map .running)
        dispatcher.settle.inFlight started works taken rfl
    simpa only [traffic, List.map_append, List.map_cons, List.map_nil, List.length_map, Int.natCast_add] using steps
  · have tidy : last.task.Tidy := by
      rw [advanced]
      exact Task.tidy_after (Task.advance_goes _ _) nofun
    rw [(Pipe.takeHead?_some taken).2]
    exact List.forall_mem_append.2 ⟨settled.tidy, List.forall_mem_singleton.2 tidy⟩

/-- A question for others than the handler may be answered in any way. -/
theorem ask {question : Flow.Ask} {resume : Flow.Answer question → Flow Outcome}
    (admitted : Admitted handler stack dispatcher (strands ++ [⟨origin, heard, .deciding (.ask question resume)⟩]))
    (other : ∀ request, question ≠ .handle request) (answer : Flow.Answer question) :
    Admitted handler stack dispatcher
      (strands ++ [⟨origin, heard ++ [⟨question, answer⟩], .deciding (resume answer)⟩]) := by
  have asked := admitted.reached.tail (.move (.ask answer other))
  rw [List.append_nil, Int.add_zero] at asked
  exact ⟨admitted.handled, admitted.stacked, asked, admitted.tidy⟩

theorem answer (question : Flow.Ask) {resume : Flow.Answer question → Flow Outcome}
    (admitted : Admitted handler stack dispatcher (strands ++ [⟨origin, heard, .deciding (.ask question resume)⟩])) :
    Admitted handler stack (dispatcher.answer question).2
      (strands ++ [⟨origin, heard ++ [⟨question, (dispatcher.answer question).1⟩],
        .deciding (resume (dispatcher.answer question).1)⟩]) := by
  cases question with
  | handle request => exact admitted.handle
  | discard body => exact (admitted.ask (by simp) ()).drop body
  | note line => exact (admitted.ask (by simp) ()).note [line]
  | draw => exact (admitted.ask (by simp) (dispatcher.answer .draw).1).journal _
  | openSpan span => exact (admitted.ask (by simp) (dispatcher.answer (.openSpan span)).1).journal _
  | mark mark => exact (admitted.ask (by simp) ()).journal _
  | record index status => exact (admitted.ask (by simp) ()).journal _

theorem run {flow : Flow Outcome}
    (admitted : Admitted handler stack dispatcher (strands ++ [⟨origin, heard, .deciding flow⟩])) :
    ∃ heard, Admitted handler stack (Program.run (I := Flow.interface) Dispatcher.answer flow dispatcher).2
      (strands ++ [⟨origin, heard,
        .answered (Stage.replyOf (Program.run (I := Flow.interface) Dispatcher.answer flow dispatcher).1)⟩]) := by
  induction flow generalizing dispatcher heard with
  | done outcome =>
    have answered := admitted.reached.tail (Traffic.move_step .answer _)
    rw [Int.add_zero] at answered
    exact ⟨heard, admitted.handled, admitted.stacked, answered, admitted.tidy⟩
  | ask question resume ih => exact ih _ (admitted.answer question)

/-- A dispatch is a strand that has come to its answer. -/
theorem dispatch (admitted : Admitted handler stack dispatcher strands) (context : Context) (request : Request) :
    ∃ heard, Admitted handler stack (dispatcher.dispatch context request).2
      (strands ++ [⟨Traffic.chain stack context request, heard,
        .answered (dispatcher.dispatch context request).1⟩]) := by
  obtain rfl := admitted.stacked
  have arrived : Admitted handler dispatcher.stack dispatcher
      (strands ++ [Strand.fresh (Traffic.chain dispatcher.stack context request)]) :=
    ⟨admitted.handled, rfl, admitted.reached.tail (.arrive context request), admitted.tidy⟩
  rw [dispatch_eq]
  exact arrived.run

end Admitted

/-- What can be called on a dispatcher. -/
inductive Call where
  | dispatch (context : Context) (request : Request)
  | read (body : Source)
  | readOut (body : Source)
  | drop (body : Source)
  | settle

def perform (dispatcher : Dispatcher) : Call → Dispatcher
  | .dispatch context request => (dispatcher.dispatch context request).2
  | .read body => (dispatcher.read body).2.2
  | .readOut body => (dispatcher.readOut body).2.2
  | .drop body => dispatcher.drop body
  | .settle => dispatcher.settle

def run (dispatcher : Dispatcher) (calls : List Call) : Dispatcher := calls.foldl perform dispatcher

theorem Admitted.perform (admitted : Admitted handler stack dispatcher strands) (call : Call) :
    ∃ strands, Admitted handler stack (dispatcher.perform call) strands := by
  cases call with
  | dispatch context request =>
    obtain ⟨heard, admitted⟩ := admitted.dispatch context request
    exact ⟨_, admitted⟩
  | read body => exact ⟨_, admitted.read body⟩
  | readOut body => exact ⟨_, admitted.readOut body⟩
  | drop body => exact ⟨_, admitted.drop body⟩
  | settle => exact ⟨_, admitted.settle⟩

theorem Admitted.called (admitted : Admitted handler stack dispatcher strands) (calls : List Call) :
    ∃ strands, Admitted handler stack (dispatcher.run calls) strands := by
  apply List.foldlRecOn (motive := fun dispatcher => ∃ strands, Admitted handler stack dispatcher strands) _ _
    ⟨strands, admitted⟩
  rintro dispatcher ⟨strands, admitted⟩ call -
  exact admitted.perform call

end Dispatcher

namespace Traffic

open Invocation

/-- What dispatches come to, and how many invocations are on their way. A dispatcher that runs is a traffic, with its
tasks in flight for the count and with a strand for each dispatch. At every moment, whatever the order of the steps, the
count is the number of invocations that live, and zero if none does. A strand that is not over can go on by itself, it
changes finitely often, by what it does and suffers alone, and what it answers is what its decorators came to. -/
theorem answers_and_counts (handler : Handler) (stack : List (Decorator Flow (Reply Source))) :
    (∀ clock calls,
      let dispatcher := (Dispatcher.fresh handler stack clock).run calls
      ∃ strands, Reached handler stack (dispatcher.traffic strands) ∧
        ∀ context request, ∃ heard, Reached handler stack ((dispatcher.dispatch context request).2.traffic
          (strands ++ [⟨chain stack context request, heard, .answered (dispatcher.dispatch context request).1⟩]))) ∧
    ∀ traffic, Reached handler stack traffic →
      traffic.count = live traffic.invocations ∧ 0 ≤ traffic.count ∧
      ((∀ invocation ∈ traffic.invocations, invocation.isLive = false) → traffic.count = 0) ∧
      ∀ (index : Nat) (strand : Strand), traffic.strands[index]? = some strand →
        (strand.stage.IsOver ∨ ∃ more freed change after,
          strand.stage.Moves handler traffic.alone.length more freed change after) ∧
        Acc (Stage.Changes handler) strand.stage ∧
        (∀ next, Step handler stack traffic next → ∃ more stage,
          next.strands[index]? = some ⟨strand.origin, strand.heard ++ more, stage⟩ ∧
          (stage = strand.stage ∨ Stage.Changes handler stage strand.stage)) ∧
        strand.Answers := by
  constructor
  · intro clock calls dispatcher
    obtain ⟨strands, admitted⟩ := (Dispatcher.Admitted.fresh handler stack clock).called calls
    refine ⟨strands, admitted.reached, fun context request => ?_⟩
    obtain ⟨heard, dispatched⟩ := admitted.dispatch context request
    exact ⟨heard, dispatched.reached⟩
  intro traffic reached
  have counted : traffic.Counted := kept_throughout reached (rfl : idle.Counted) Counted.step
  have sound : traffic.Sound := kept_throughout reached (List.forall_mem_nil _ : idle.Sound) Sound.step
  refine ⟨counted, ?_, fun none => ?_, fun index strand present => ?_⟩
  · rw [counted]
    exact Int.natCast_nonneg _
  · have zero : live traffic.invocations = 0 := List.countP_eq_zero.2 fun invocation member => by simp [none _ member]
    rw [counted, zero]
    rfl
  · have holds := sound strand (List.mem_of_getElem? present)
    exact ⟨holds.over_or_moves handler _, Stage.acc handler _, fun next step => step.strand present, holds.answers⟩

def readOnly : List (Decorator Flow (Reply Source)) :=
  [fun request next => if request.method = "GET" then next.run request
    else return .error (.notImplemented request.method)]

def ofMethod (method : String) : Request := ⟨method, ⟨none, none, "/", none⟩, "HTTP/1.1", .empty, [], none⟩

def readStrand (method : String) : Stage → Strand := Strand.mk (chain readOnly default (ofMethod method)) []

/-- One dispatch was refused; another was abandoned when it had entered the handler and no task ran yet. -/
def refusedAndAbandoned : Traffic :=
  ⟨[readStrand "PUT" (.answered (Dispatcher.failureReply (.notImplemented "PUT"))), readStrand "GET" .abandoned],
    [.dropped], 0⟩

theorem refusedAndAbandoned_reached : Reached Handler.failure readOnly refusedAndAbandoned := by
  let handled : Request := { ofMethod "GET" with context := some default }
  have refuses : Stage.Moves Handler.failure 0 (.deciding (chain readOnly default (ofMethod "PUT"))) [] [] 0
      (.answered (Dispatcher.failureReply (.notImplemented "PUT"))) :=
    Stage.Moves.answer
  have enters : Stage.Moves Handler.failure 0 (.deciding (chain readOnly default (ofMethod "GET"))) [] [] 1
      (.calling handled (.entered handled) .done) :=
    Stage.Moves.enter
  have arrived : Reached Handler.failure readOnly _ := .single (.arrive default (ofMethod "PUT"))
  have refused := arrived.tail (@move_step _ _ [] [] _ _ _ _ _ _ refuses 0)
  have followed := refused.tail (.arrive default (ofMethod "GET"))
  have entered := followed.tail (@move_step _ _ [_] [] _ _ _ _ _ _ enters 0)
  exact entered.tail (@Step.suffer _ _ [_] [] _ _ _ _ _ _ _ _ .abandonEntered)

/-- Nothing lives after an abandoned and a refused dispatch, and the refusal has the status of its failure. -/
theorem refused_and_abandoned_count :
    Reached Handler.failure readOnly refusedAndAbandoned ∧
      (∀ invocation ∈ refusedAndAbandoned.invocations, invocation.isLive = false) ∧
      refusedAndAbandoned.count = 0 ∧
      (Dispatcher.failureReply (.notImplemented "PUT")).status = Fault.statusCode (.notImplemented "PUT") := by
  have put : chain readOnly default (ofMethod "PUT") = .done (.error (.notImplemented "PUT")) := rfl
  have holds := (answers_and_counts Handler.failure readOnly).2 _ refusedAndAbandoned_reached
  have dead : ∀ invocation ∈ refusedAndAbandoned.invocations, invocation.isLive = false := by
    intro invocation member
    obtain rfl := List.mem_singleton.1 member
    rfl
  have answers : Strand.Answers (readStrand "PUT" _) := (holds.2.2.2 0 _ rfl).2.2.2
  obtain ⟨outcome, run, -, failed⟩ := answers _ rfl
  simp only [readStrand, put] at run
  cases run
  exact ⟨refusedAndAbandoned_reached, dead, holds.2.2.1 dead, failed _ rfl⟩

end Traffic

end Sluice
