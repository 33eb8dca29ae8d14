/-! The signal to shut down. Whoever holds it can trigger it, any number of times, and every listener hears what was
triggered after it began to listen. Only the last one is kept for a listener that falls behind. -/

set_option autoImplicit false

namespace Sluice

structure ShutdownSignal where
  sent : Nat
  holders : Nat
  deriving DecidableEq, Repr

/-- A listener, by the number of signals that it has heard or missed. -/
structure ShutdownListener where
  seen : Nat
  deriving DecidableEq, Repr

inductive ShutdownNotice where
  | signal
  | empty
  /-- Nothing can come any more. -/
  | closed
  /-- Older signals were lost. -/
  | lagged (missed : Nat)
  deriving DecidableEq, Repr

namespace ShutdownSignal

def fresh : ShutdownSignal := ⟨0, 1⟩

def isTriggered (signal : ShutdownSignal) : Bool := 0 < signal.sent

def trigger (signal : ShutdownSignal) : ShutdownSignal := { signal with sent := signal.sent + 1 }

def share (signal : ShutdownSignal) : ShutdownSignal := { signal with holders := signal.holders + 1 }

def release (signal : ShutdownSignal) : ShutdownSignal := { signal with holders := signal.holders - 1 }

def listen (signal : ShutdownSignal) : ShutdownListener := ⟨signal.sent⟩

/-- Takes the oldest signal that is kept for a listener, or tells how many it has missed. -/
def receive (signal : ShutdownSignal) (listener : ShutdownListener) : ShutdownNotice × ShutdownListener :=
  match signal.sent - listener.seen with
  | 0 => (if signal.holders == 0 then .closed else .empty, listener)
  | 1 => (.signal, ⟨signal.sent⟩)
  | behind => (.lagged (behind - 1), ⟨signal.sent - 1⟩)

end ShutdownSignal

end Sluice
