import Sluice.Exchange.Writer
import Sluice.Text.Quoted

/-! The streaming writer and the response that an engine reads from it. The head is handed over once; the frames
of the body go through a first-in first-out buffer. A writer that has filled the buffer stands still until the
engine has read a frame or dropped the body. The body ends cleanly only if the writer closed it: a body whose
writer went away otherwise ends with a closed connection. -/

set_option autoImplicit false

namespace Sluice

/-- Where the head is on its way to the engine. The flag tells whether a live body comes with it. -/
inductive HeadSlot where
  | waiting
  | ready (head : Head) (streams : Bool)
  | taken
  | dropped
  deriving DecidableEq

structure Pipe where
  /-- The writer still holds the head it has to send. -/
  holdsHead : Bool
  /-- The writer holds the sending end of the body. -/
  holdsBody : Bool
  /-- The writer closed the body. -/
  finished : Bool
  slot : HeadSlot
  /-- The receiving end of the body exists. -/
  receives : Bool
  buffer : Chunks
  /-- The end of the body was reported, or there never was a body. -/
  ended : Bool

namespace Pipe

def fresh : Pipe := ⟨true, false, false, .waiting, false, [], false⟩

/-- Chunks that the buffer takes while the writer goes on. -/
def room : Nat := 2

/-- The writer has to wait for the engine. -/
def isFull (pipe : Pipe) : Bool := pipe.receives && room < pipe.buffer.length

def headOnly (status : Status) : Head := ⟨status, HeaderMap.empty⟩

/-- Hands the head over, if the engine still waits for it. -/
def sendHead (pipe : Pipe) (head : Head) (streams : Bool) : Except Fault Unit × Pipe :=
  if !pipe.holdsHead then (.error (.internal "response head already sent"), pipe)
  else match pipe.slot with
    | .waiting =>
      (.ok (), { pipe with holdsHead := false, slot := .ready head streams, holdsBody := streams,
                           receives := streams, ended := !streams })
    -- nobody waits for the head any more; it is given up all the same
    | _ => (.error .connectionClosed, { pipe with holdsHead := false })

def writeData (pipe : Pipe) (bytes : Bytes) : Except Fault Unit × Pipe :=
  if !pipe.holdsBody then
    if pipe.holdsHead then (.error (.internal "response data written before headers"), pipe)
    else (.error .connectionClosed, pipe)
  else if pipe.receives then (.ok (), { pipe with buffer := pipe.buffer ++ [.ok bytes] })
  else (.error .connectionClosed, { pipe with holdsBody := false })

/-- Marks the body as complete, if there is one. -/
def finishBody (pipe : Pipe) : Pipe :=
  if pipe.holdsBody then { pipe with holdsBody := false, finished := true } else pipe

def close (pipe : Pipe) : Except Fault Unit × Pipe :=
  if pipe.holdsHead then
    match pipe.sendHead (headOnly .ok) false with
    | (.ok (), pipe) => (.ok (), pipe.finishBody)
    | refused => refused
  else (.ok (), pipe.finishBody)

/-- Aborts: before the head a response of the cause's status, after it the cause as the last frame. -/
def closeWith (pipe : Pipe) (cause : Fault) : Except Fault Unit × Pipe :=
  if pipe.holdsHead then pipe.sendHead (headOnly cause.statusCode) false
  else if pipe.holdsBody then
    -- the cause is lost on an engine that dropped the body, and the call goes well all the same
    let buffer := if pipe.receives then pipe.buffer ++ [.error cause] else pipe.buffer
    (.ok (), { pipe with holdsBody := false, buffer })
  else (.error .connectionClosed, pipe)

def take (pipe : Pipe) : Writer.Call → Except Fault Unit × Pipe
  | .head head => pipe.sendHead head true
  | .data bytes => pipe.writeData bytes
  | .close => pipe.close
  | .closeWith cause => pipe.closeWith cause

def isOpen (pipe : Pipe) : Bool :=
  if pipe.holdsHead then pipe.slot != .dropped
  else pipe.holdsBody && pipe.receives

/-- The writer goes away. A head that was never sent becomes a server error. -/
def dropWriter (pipe : Pipe) : Pipe :=
  let pipe := if pipe.holdsHead then (pipe.sendHead (headOnly .internalServerError) false).2 else pipe
  { pipe with holdsBody := false }

def dropBody (pipe : Pipe) : Pipe := { pipe with receives := false, buffer := [] }

/-- The engine gives up waiting for the head. A body that came with it goes too. -/
def dropHead (pipe : Pipe) : Pipe :=
  match pipe.slot with
  | .waiting => { pipe with slot := .dropped }
  | .ready _ _ => { pipe.dropBody with slot := .dropped }
  | _ => pipe

/-- The engine takes the head, if it is there. -/
def takeHead? (pipe : Pipe) : Option (Head × Bool) × Pipe :=
  match pipe.slot with
  | .ready head streams => (some (head, streams), { pipe with slot := .taken })
  | _ => (none, pipe)

/-- One reading of the body. -/
inductive Reading where
  | chunk (bytes : Bytes)
  | fault (cause : Fault)
  | finish
  | pending
  deriving DecidableEq

/-- Reads one frame. When the sending end is gone and the buffer is empty the body ends: with a closed connection
first, unless the writer closed it. -/
def read (pipe : Pipe) : Reading × Pipe :=
  match pipe.buffer with
  | .ok bytes :: rest => (.chunk bytes, { pipe with buffer := rest })
  | .error cause :: rest => (.fault cause, { pipe with buffer := rest })
  | [] =>
    if pipe.ended then (.finish, pipe)
    else if pipe.holdsBody then (.pending, pipe)
    else if pipe.finished then (.finish, { pipe with ended := true })
    else (.fault .connectionClosed, { pipe with ended := true })

def outline (pipe : Pipe) : Text.Outline :=
  .closed "StreamingWriter" [("head_sent", .flag (!pipe.holdsHead)), ("open", .flag pipe.isOpen)]

def answer (clock : Instant) : (question : Writer.Ask) → Pipe → Writer.Answer question × Pipe
  | .call call, pipe => pipe.take call
  | .isOpen, pipe => (pipe.isOpen, pipe)
  | .now, pipe => (clock, pipe)
  | .note _, pipe => ((), pipe)

end Pipe

/-- The line that a question puts into the journal. -/
def Writer.Ask.notes : Writer.Ask → List Note
  | .note line => [line]
  | _ => []

namespace Writing

/-- Runs a program until it is done or stands before a full buffer. -/
def advance {α : Type} (clock : Instant) : Writing α → Pipe → Writing α × Pipe × List Note
  | .done value, pipe => (.done value, pipe, [])
  | .ask question resume, pipe =>
    -- the chunk that fills the buffer is taken; it is the next question that waits, whatever it is
    if pipe.isFull then (.ask question resume, pipe, [])
    else
      let (reply, pipe) := pipe.answer clock question
      let (program, pipe, notes) := advance clock (resume reply) pipe
      (program, pipe, Writer.Ask.notes question ++ notes)

end Writing

end Sluice
