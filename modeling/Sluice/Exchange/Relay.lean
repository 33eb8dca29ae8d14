import Sluice.Exchange.Pipe

/-! The two sides of a pipe driven from outside. The writing side carries out orders strictly one after another;
an order that fills the buffer counts as finished only once there is room again, and later orders wait behind
it. The reading side answers at once. -/

set_option autoImplicit false

namespace Sluice

namespace Relay

/-- What the writing side can be told to do. The head is built from its parts when its turn comes. -/
inductive Order where
  | head (code : Nat) (fields : List (String × Bytes))
  | call (call : Writer.Call)
  | isOpen
  | outline
  | release
  deriving DecidableEq

inductive Result where
  | returned (outcome : Except Fault Unit)
  | open (isOpen : Bool)
  | outlined (text : String)
  | released

abbrev Report := Order × Result

def perform (pipe : Pipe) : Order → Result × Pipe
  | .head code fields =>
    match Head.build code fields with
    | .error fault => (.returned (.error fault), pipe)
    | .ok head =>
      let (outcome, pipe) := pipe.take (.head head)
      (.returned outcome, pipe)
  | .call call =>
    let (outcome, pipe) := pipe.take call
    (.returned outcome, pipe)
  | .isOpen => (.open pipe.isOpen, pipe)
  | .outline => (.outlined pipe.outline.render, pipe)
  | .release => (.released, pipe.dropWriter)

end Relay

structure Relay where
  pipe : Pipe
  /-- Orders not begun. -/
  waiting : List Relay.Order
  /-- The order that filled the buffer. -/
  blocked : Option Relay.Report
  /-- The writer is gone; further orders are ignored. -/
  released : Bool
  /-- The reader has the response and holds its body. -/
  holdsBody : Bool

namespace Relay

def fresh : Relay := ⟨Pipe.fresh, [], none, false, false⟩

/-- Carries out orders until one fills the buffer or the writer is gone. -/
def work (relay : Relay) : List Order → List Report × Relay
  | [] => ([], { relay with waiting := [] })
  | order :: rest =>
    let (result, pipe) := perform relay.pipe order
    let relay := { relay with pipe }
    if order = .release then ([(order, result)], { relay with waiting := [], released := true })
    else if pipe.isFull then ([], { relay with waiting := rest, blocked := some (order, result) })
    else
      let (reports, relay) := relay.work rest
      ((order, result) :: reports, relay)

/-- Lets the writing side go on as far as it can. -/
def settle (relay : Relay) : List Report × Relay :=
  if relay.pipe.isFull then ([], relay)
  else
    let (reports, settled) := { relay with blocked := none }.work relay.waiting
    (relay.blocked.toList ++ reports, settled)

def order (relay : Relay) (order : Order) : Relay :=
  if relay.released then relay else { relay with waiting := relay.waiting ++ [order] }

def awaitHead (relay : Relay) : Option Head × Relay :=
  match relay.pipe.takeHead? with
  | (some (head, _), pipe) => (some head, { relay with pipe, holdsBody := true })
  | (none, pipe) => (none, { relay with pipe })

def dropHead (relay : Relay) : Relay := { relay with pipe := relay.pipe.dropHead }

def dropBody (relay : Relay) : Relay :=
  if relay.holdsBody then { relay with pipe := relay.pipe.dropBody, holdsBody := false } else relay

/-- One reading, if there is a body. The writing side goes on after it. -/
def read (relay : Relay) : Option Pipe.Reading × List Report × Relay :=
  if relay.holdsBody then
    let (reading, pipe) := relay.pipe.read
    let (reports, relay) := { relay with pipe }.settle
    (some reading, reports, relay)
  else (none, [], relay)

/-- What there still is to read at most. -/
def backlog (relay : Relay) : Nat := relay.pipe.buffer.length + relay.waiting.length + 1

/-- Reads on until the body ends or fails or nothing is there. -/
def readAll : Nat → Relay → List Pipe.Reading × List Report × Relay
  | 0, relay => ([], [], relay)
  | fuel + 1, relay =>
    match relay.read with
    | (some (.chunk bytes), reports, relay) =>
      let (readings, later, relay) := readAll fuel relay
      (.chunk bytes :: readings, reports ++ later, relay)
    | (some reading, reports, relay) => ([reading], reports, relay)
    | (none, reports, relay) => ([], reports, relay)

/-- Reads the rest of the body, if there is one. -/
def drain (relay : Relay) : Option (List Pipe.Reading) × List Report × Relay :=
  if relay.holdsBody then
    let (readings, reports, relay) := readAll relay.backlog relay
    (some readings, reports, relay)
  else (none, [], relay)

end Relay

end Sluice
