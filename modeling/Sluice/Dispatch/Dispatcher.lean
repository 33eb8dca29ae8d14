import Sluice.Chain.Flow
import Sluice.Dispatch.Task

/-! The single entry for all requests. A request goes through the decorators; the handler under them runs on a task of
its own, which may go on after its head was taken. The dispatcher counts the tasks that have not ended. A task
that waits for its reader is woken by it and goes on when the dispatcher settles. -/

set_option autoImplicit false

namespace Sluice

structure Dispatcher where
  handler : Handler
  stack : List (Decorator Flow (Reply Source))
  clock : Instant
  tasks : List Task
  inFlight : Nat
  /-- Tasks to go on with, in the order in which they were woken. -/
  woken : List Nat
  journal : Journal

namespace Dispatcher

def fresh (handler : Handler) (stack : List (Decorator Flow (Reply Source))) (clock : Instant) : Dispatcher :=
  ⟨handler, stack, clock, [], 0, [], Journal.empty⟩

def note (dispatcher : Dispatcher) (lines : List Note) : Dispatcher :=
  { dispatcher with journal := lines.foldl Journal.note dispatcher.journal }

/-- Puts a task back; if it has ended by now it no longer counts. -/
def replaceTask (dispatcher : Dispatcher) (index : Nat) (before after : Task) : Dispatcher :=
  { dispatcher with
    tasks := dispatcher.tasks.set index after
    inFlight := if after.ended && !before.ended then dispatcher.inFlight - 1 else dispatcher.inFlight }

/-- Lets a task go on as far as it can. -/
def advance (dispatcher : Dispatcher) (index : Nat) : Dispatcher :=
  match dispatcher.tasks[index]? with
  | none => dispatcher
  | some task =>
    let (advanced, notes) := task.advance dispatcher.clock
    (dispatcher.replaceTask index task advanced).note notes

def wake (dispatcher : Dispatcher) (index : Nat) : Dispatcher :=
  if dispatcher.woken.contains index then dispatcher
  else { dispatcher with woken := dispatcher.woken ++ [index] }

def settle (dispatcher : Dispatcher) : Dispatcher :=
  dispatcher.woken.foldl advance { dispatcher with woken := [] }

/-- The id of a request about which nothing is known. -/
def freshContext (journal : Journal) : Context :=
  Context.ofId (RequestId.ofRandom (journal.seed * 0x9E3779B97F4A7C15F39CC0605CEDC835 % Nat.pow 2 128))

/-- Enters the handler: a new task that counts from now on. -/
def enter (dispatcher : Dispatcher) (request : Request) : Nat × Dispatcher :=
  let context := request.context.getD (freshContext dispatcher.journal)
  let task := Task.start dispatcher.handler context request
  (dispatcher.tasks.length,
    { dispatcher with tasks := dispatcher.tasks ++ [task], inFlight := dispatcher.inFlight + 1 })

/-- Takes the head of a task and, with it, its body. -/
def takeHead (dispatcher : Dispatcher) (index : Nat) : Reply Source × Dispatcher :=
  match dispatcher.tasks[index]? with
  | none => (⟨.internalServerError, HeaderMap.empty, .frames []⟩, dispatcher)
  | some task =>
    match task.pipe.takeHead? with
    | (some (head, streams), pipe) =>
      (⟨head.status, head.headers, if streams then .stream index else .frames []⟩,
        { dispatcher with tasks := dispatcher.tasks.set index { task with pipe } })
    | (none, _) => (⟨.internalServerError, HeaderMap.empty, .frames []⟩, dispatcher)

/-- Runs a request up to the head of its response. Tasks woken earlier go on first. -/
def handle (dispatcher : Dispatcher) (request : Request) : Reply Source × Dispatcher :=
  let (index, dispatcher) := dispatcher.settle.enter request
  (dispatcher.advance index).takeHead index

/-- Drops a body; the task behind it is woken. -/
def drop (dispatcher : Dispatcher) : Source → Dispatcher
  | .frames _ => dispatcher
  | .stream index =>
    match dispatcher.tasks[index]? with
    | none => dispatcher
    | some task =>
      { dispatcher with
        tasks := dispatcher.tasks.set index { task with pipe := task.pipe.dropBody } }.wake index

def answer : (question : Flow.Ask) → Dispatcher → Flow.Answer question × Dispatcher
  | .handle request, dispatcher =>
    let (reply, dispatcher) := dispatcher.handle request
    (.ok reply, dispatcher)
  | .discard body, dispatcher => ((), dispatcher.drop body)
  | .note line, dispatcher => ((), dispatcher.note [line])
  | .draw, dispatcher =>
    let (number, journal) := Journal.answer .draw dispatcher.journal
    (number, { dispatcher with journal })
  | .openSpan span, dispatcher =>
    let (index, journal) := Journal.answer (.openSpan span) dispatcher.journal
    (index, { dispatcher with journal })
  | .mark mark, dispatcher =>
    ((), { dispatcher with journal := (Journal.answer (.mark mark) dispatcher.journal).2 })
  | .record index status, dispatcher =>
    ((), { dispatcher with journal := (Journal.answer (.record index status) dispatcher.journal).2 })

/-- The response for a failure of the decorators. -/
def failureReply (fault : Fault) : Reply Source :=
  (Reply.ofText fault.statusCode ("Error: " ++ fault.message)).map .frames

/-- The decorators around the handler. -/
def chain (dispatcher : Dispatcher) : Next Flow (Reply Source) :=
  Next.start dispatcher.stack (some Flow.handle)

/-- Answers a request. A failure of the decorators is answered too. -/
def dispatch (dispatcher : Dispatcher) (context : Context) (request : Request) :
    Reply Source × Dispatcher :=
  let flow := dispatcher.chain.run { request with context := some context }
  let (outcome, dispatcher) := Program.run (I := Flow.interface) answer flow dispatcher
  (match outcome with
    | .ok reply => reply
    | .error fault => failureReply fault, dispatcher)

/-- Reads one frame of a body that is known. -/
def readFrames : Body → Pipe.Reading × Body
  | [] => (.finish, [])
  | .data bytes :: rest => (.chunk bytes, rest)
  | .fault cause :: rest => (.fault cause, rest)
  | .trailers _ :: rest => readFrames rest

/-- Reads a body that is known up to its end or first failure. -/
def readOutFrames : Body → List Pipe.Reading × Body
  | [] => ([.finish], [])
  | .data bytes :: rest =>
    let (readings, rest) := readOutFrames rest
    (.chunk bytes :: readings, rest)
  | .fault cause :: rest => ([.fault cause], rest)
  | .trailers _ :: rest => readOutFrames rest

/-- One reading of a body, with what is left of it. -/
def read (dispatcher : Dispatcher) : Source → Pipe.Reading × Source × Dispatcher
  | .frames body =>
    let (reading, rest) := readFrames body
    (reading, .frames rest, dispatcher)
  | .stream index =>
    match dispatcher.tasks[index]? with
    | none => (.finish, .stream index, dispatcher)
    | some task =>
      let (reading, pipe) := task.pipe.read
      let dispatcher := { dispatcher with tasks := dispatcher.tasks.set index { task with pipe } }
      (reading, .stream index, dispatcher.wake index)

/-- Reads a body up to its end or first failure. -/
def readOut (dispatcher : Dispatcher) : Source → List Pipe.Reading × Source × Dispatcher
  | .frames body =>
    let (readings, rest) := readOutFrames body
    (readings, .frames rest, dispatcher)
  | .stream index =>
    match dispatcher.tasks[index]? with
    | none => ([.finish], .stream index, dispatcher)
    | some task =>
      let (readings, read, notes) := Task.readOut dispatcher.clock task.program task.pipe
      -- a task that had ended before must not be counted off once more
      let read := { read with ended := read.ended || task.ended }
      (readings, .stream index, (dispatcher.replaceTask index task read).note notes)

end Dispatcher

end Sluice
