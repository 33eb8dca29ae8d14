import Sluice.Exchange.Writer

/-! A writer that records the calls it takes. It can be told to be closed or to refuse every call. -/

set_option autoImplicit false

namespace Sluice

structure Recorder where
  isOpen : Bool
  refuses : Bool
  clock : Instant
  calls : List Writer.Call
  notes : List Note

namespace Recorder

def fresh (clock : Instant) : Recorder := ⟨true, false, clock, [], []⟩

def disconnect (recorder : Recorder) : Recorder := { recorder with isOpen := false, refuses := true }

/-- The writer counts as closed but takes calls. -/
def halfClose (recorder : Recorder) : Recorder := { recorder with isOpen := false, refuses := false }

/-- The writer counts as open but refuses calls. -/
def fail (recorder : Recorder) : Recorder := { recorder with isOpen := true, refuses := true }

def heal (recorder : Recorder) : Recorder := { recorder with isOpen := true, refuses := false }

def take (call : Writer.Call) (recorder : Recorder) : Except Fault Unit × Recorder :=
  if recorder.refuses then (.error .connectionClosed, recorder)
  else
    let stays := match call with
      | .head _ | .data _ => recorder.isOpen
      | .close | .closeWith _ => false
    (.ok (), { recorder with isOpen := stays, calls := recorder.calls ++ [call] })

def answer : (question : Writer.Ask) → Recorder → Writer.Answer question × Recorder
  | .call call, recorder => recorder.take call
  | .isOpen, recorder => (recorder.isOpen, recorder)
  | .now, recorder => (recorder.clock, recorder)
  | .note line, recorder => ((), { recorder with notes := recorder.notes ++ [line] })

def run {α : Type} (program : Writing α) (recorder : Recorder) : α × Recorder :=
  Program.run (I := Writer.interface) answer program recorder

end Recorder

end Sluice
