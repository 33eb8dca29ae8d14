import Sluice.Chain.Next
import Sluice.Exchange.Writer
import Sluice.Program

/-! What decorators ask of their surroundings: to hand a request to the handler, to drop the body of a response that
is not used, to note a line in the journal, a random number, and to keep the trace. -/

set_option autoImplicit false

namespace Sluice

/-- Where the body of a response comes from: known frames, or the stream of a running handler. -/
inductive Source where
  | frames (body : Body)
  | stream (index : Nat)

instance : Inhabited Source := ⟨.frames []⟩

/-- The record of one traced request. -/
structure Span where
  name : String
  service : String
  path : String
  status : Option Status

/-- What happened inside a span. -/
inductive Mark where
  | received
  | sent
  deriving DecidableEq, Repr

structure Trace where
  spans : List Span
  marks : List Mark

namespace Trace

def empty : Trace := ⟨[], []⟩

/-- Opens a span and gives its place. -/
def openSpan (trace : Trace) (span : Span) : Nat × Trace :=
  (trace.spans.length, { trace with spans := trace.spans ++ [span] })

def mark (trace : Trace) (mark : Mark) : Trace := { trace with marks := trace.marks ++ [mark] }

def record (trace : Trace) (index : Nat) (status : Status) : Trace :=
  { trace with spans := trace.spans.modify index fun span => { span with status := some status } }

end Trace

namespace Flow

inductive Ask where
  | handle (request : Request)
  | discard (body : Source)
  | note (line : Note)
  | draw
  | openSpan (span : Span)
  | mark (mark : Mark)
  | record (index : Nat) (status : Status)

@[reducible] def Answer : Ask → Type
  | .handle _ => Except Fault (Reply Source)
  | .draw => Binary
  | .openSpan _ => Nat
  | _ => Unit

def interface : Interface := ⟨Ask, Answer⟩

end Flow

abbrev Flow := Program Flow.interface

abbrev Outcome := Except Fault (Reply Source)

/-- The status an outcome is answered with. -/
def Outcome.status : Outcome → Status
  | .ok reply => reply.status
  | .error fault => fault.statusCode

namespace Flow

def handle (request : Request) : Flow Outcome := Program.send (I := interface) (.handle request)

def discard (body : Source) : Flow Unit := Program.send (I := interface) (.discard body)

/-- Drops the body of an outcome that is not used. -/
def release : Outcome → Flow Unit
  | .ok reply => discard reply.body
  | .error _ => return ()

def note (line : Note) : Flow Unit := Program.send (I := interface) (.note line)

def draw : Flow Binary := Program.send (I := interface) .draw

def openSpan (span : Span) : Flow Nat := Program.send (I := interface) (.openSpan span)

def mark (mark : Mark) : Flow Unit := Program.send (I := interface) (.mark mark)

def record (index : Nat) (status : Status) : Flow Unit :=
  Program.send (I := interface) (.record index status)

end Flow

/-- What a run of decorators leaves behind. -/
structure Journal where
  notes : List Note
  trace : Trace
  /-- Where the random numbers stand. -/
  seed : Nat

namespace Journal

def empty : Journal := ⟨[], Trace.empty, 1⟩

instance : Inhabited Journal := ⟨empty⟩

def nextSeed (seed : Nat) : Nat := (1664525 * seed + 1013904223) % Nat.pow 2 32

/-- A random number from 0 up to and without 1. -/
def number (seed : Nat) : Binary := .finite false (seed / Nat.pow 2 8) (-24)

def note (journal : Journal) (line : Note) : Journal := { journal with notes := journal.notes ++ [line] }

/-- Answers every question but the one for the handler, which is not there. -/
def answer : (question : Flow.Ask) → Journal → Flow.Answer question × Journal
  | .handle _, journal => (.error Next.noHandler, journal)
  | .discard _, journal => ((), journal)
  | .note line, journal => ((), journal.note line)
  | .draw, journal =>
    let seed := nextSeed journal.seed
    (number seed, { journal with seed })
  | .openSpan span, journal =>
    let (index, trace) := journal.trace.openSpan span
    (index, { journal with trace })
  | .mark mark, journal => ((), { journal with trace := journal.trace.mark mark })
  | .record index status, journal => ((), { journal with trace := journal.trace.record index status })

/-- Runs decorators that have no running handlers under them. -/
def run {α : Type} (flow : Flow α) (journal : Journal) : α × Journal :=
  Program.run (I := Flow.interface) answer flow journal

end Journal

end Sluice
