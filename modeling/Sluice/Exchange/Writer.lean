import Sluice.Calendar
import Sluice.Http.Message
import Sluice.Program

/-! What a response asks of the writer under it. The calls push a head, chunks of data and an end; the other
questions are whether the writer is still open, what time it is, and to note a line in the journal. -/

set_option autoImplicit false

namespace Sluice

structure Head where
  status : Status
  headers : HeaderMap
  deriving DecidableEq

/-- Builds a head from its parts; a bad status is reported before a bad field. -/
def Head.build (code : Nat) (fields : List (String × Bytes)) : Except Fault Head :=
  match Status.ofCode? code, HeaderMap.ofFields fields with
  | none, _ => .error (.part .statusCode)
  | some _, .error cause => .error (.part cause)
  | some status, .ok headers => .ok ⟨status, headers⟩

/-- A line of the journal: what it is about, and details. -/
structure Note where
  topic : String
  details : List Json

namespace Writer

inductive Call where
  | head (head : Head)
  | data (bytes : Bytes)
  | close
  | closeWith (cause : Fault)
  deriving DecidableEq

inductive Ask where
  | call (call : Call)
  | isOpen
  | now
  | note (line : Note)

@[reducible] def Answer : Ask → Type
  | .call _ => Except Fault Unit
  | .isOpen => Bool
  | .now => Instant
  | .note _ => Unit

@[reducible] def interface : Interface := ⟨Ask, Answer⟩

end Writer

/-- A program over a response writer. -/
abbrev Writing := Program Writer.interface

namespace Writing

def call (c : Writer.Call) : Writing (Except Fault Unit) := .ask (I := Writer.interface) (.call c) .done

end Writing

end Sluice
