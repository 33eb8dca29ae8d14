import Sluice.Exchange.Handler
import Sluice.Exchange.Pipe

/-! The task of one running handler: its program and the pipe between it and the engine. It goes on as far as the
pipe lets it, and when it ends its writer goes away. -/

set_option autoImplicit false

namespace Sluice

structure Task where
  program : Writing Unit
  pipe : Pipe
  ended : Bool

namespace Task

/-- The task that answers a request by a handler. -/
def start (handler : Handler) (context : Context) (request : Request) : Task :=
  ⟨handler.serve context request, Pipe.fresh, false⟩

/-- The task ends when its program is done and what it wrote last has found room. -/
def close (task : Task) : Task :=
  match task.program with
  | .done _ => if task.pipe.isFull then task else { task with pipe := task.pipe.dropWriter, ended := true }
  | .ask .. => task

/-- Goes on as far as it can. -/
def advance (clock : Instant) (task : Task) : Task × List Note :=
  if task.ended then (task, [])
  else
    let (program, pipe, notes) := Writing.advance clock task.program task.pipe
    ({ task with program, pipe }.close, notes)

/-- Reads what is buffered, up to and with the first failure; the flag tells whether there was one. -/
def readBuffer : Chunks → List Pipe.Reading × Bool × Chunks
  | [] => ([], false, [])
  | .error cause :: rest => ([.fault cause], true, rest)
  | .ok bytes :: rest =>
    let (readings, failed, rest) := readBuffer rest
    (.chunk bytes :: readings, failed, rest)

/-- Reads the body to its end or first failure, while the writer goes on. -/
def readOut (clock : Instant) : Writing Unit → Pipe → List Pipe.Reading × Task × List Note
  | .done value, pipe =>
    let (readings, failed, buffer) := readBuffer pipe.buffer
    let pipe := { pipe with buffer }
    if failed then (readings, Task.close ⟨.done value, pipe, false⟩, [])
    else
      let (last, pipe) := pipe.dropWriter.read
      (readings ++ [last], ⟨.done value, pipe, true⟩, [])
  | .ask question resume, pipe =>
    let (readings, failed, buffer) := readBuffer pipe.buffer
    let pipe := { pipe with buffer }
    if failed then
      let (task, notes) := advance clock ⟨.ask question resume, pipe, false⟩
      (readings, task, notes)
    else
      let (reply, pipe) := pipe.answer clock question
      let (later, task, notes) := readOut clock (resume reply) pipe
      (readings ++ later, task, Writer.Ask.notes question ++ notes)

end Task

end Sluice
