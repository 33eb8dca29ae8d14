import Sluice.Exchange.Pipe

/-! The engine at the far end of a pipe. It takes the response once it is there and reads the body frame by frame
until it ends; an idle poll changes nothing and is no step. What is left to read once the writer has let go is laid
down in the pipe. -/

set_option autoImplicit false

namespace Sluice

namespace Pipe

theorem takeHead?_some {pipe after : Pipe} {response : Head × Bool}
    (taken : pipe.takeHead? = (some response, after)) :
    pipe.slot = .ready response.1 response.2 ∧ after = { pipe with slot := .taken } := by
  unfold takeHead? at taken
  split at taken
  · next head streams ready =>
    simp only [Prod.mk.injEq, Option.some.injEq] at taken
    obtain ⟨rfl, rfl⟩ := taken
    exact ⟨ready, rfl⟩
  · simp at taken

theorem takeHead?_ready {pipe : Pipe} {head : Head} {streams : Bool} (ready : pipe.slot = .ready head streams) :
    pipe.takeHead? = (some (head, streams), { pipe with slot := .taken }) := by
  simp [takeHead?, ready]

/-- After the head, a writer that goes away only lets go of the body. -/
theorem dropWriter_sent {pipe : Pipe} (sent : pipe.holdsHead = false) :
    pipe.dropWriter = { pipe with holdsBody := false } := by
  simp [dropWriter, sent]

/-- Once the head is sent, no call changes where it is. -/
theorem take_sent {pipe : Pipe} (sent : pipe.holdsHead = false) (call : Writer.Call) :
    (pipe.take call).2.holdsHead = false ∧ (pipe.take call).2.slot = pipe.slot ∧
      (pipe.take call).2.ended = pipe.ended := by
  obtain ⟨holdsHead, holdsBody, finished, slot, receives, buffer, ended⟩ := pipe
  cases sent
  cases call <;> cases holdsBody <;> cases receives <;> exact ⟨rfl, rfl, rfl⟩

/-- Once the body is let go, no call changes anything. -/
theorem take_let_go {pipe : Pipe} (sent : pipe.holdsHead = false) (let_go : pipe.holdsBody = false)
    (call : Writer.Call) : (pipe.take call).2 = pipe := by
  obtain ⟨holdsHead, holdsBody, finished, slot, receives, buffer, ended⟩ := pipe
  cases sent
  cases let_go
  cases call <;> rfl

/-- What reading a frame gives. -/
def Reading.ofFrame : Except Fault Bytes → Reading
  | .ok bytes => .chunk bytes
  | .error cause => .fault cause

@[simp] theorem Reading.finish_ne_ofFrame (frame : Except Fault Bytes) : .finish ≠ Reading.ofFrame frame := by
  cases frame <;> simp [ofFrame]

theorem Reading.ofFrame_ne_pending (frame : Except Fault Bytes) : Reading.ofFrame frame ≠ .pending := by
  cases frame <;> simp [ofFrame]

theorem read_cons {pipe : Pipe} {frame : Except Fault Bytes} {rest : Chunks}
    (buffer : pipe.buffer = frame :: rest) :
    pipe.read = (.ofFrame frame, { pipe with buffer := rest }) := by
  cases frame <;> simp [read, buffer, Reading.ofFrame]

/-- Without frames, a reading tells of the end, or of none yet. -/
theorem read_nil {pipe : Pipe} (buffer : pipe.buffer = []) :
    pipe.read =
      (if pipe.ended then .finish else if pipe.holdsBody then .pending
        else if pipe.finished then .finish else .fault .connectionClosed,
        { pipe with ended := pipe.ended || !pipe.holdsBody }) := by
  obtain ⟨holdsHead, holdsBody, finished, slot, receives, frames, ended⟩ := pipe
  cases buffer
  cases ended <;> cases holdsBody <;> cases finished <;> rfl

/-- Reading takes a frame, and notes the end where there is none. -/
theorem read_after {pipe after : Pipe} {reading : Reading} (read : pipe.read = (reading, after)) :
    after = { pipe with buffer := pipe.buffer.tail,
                        ended := pipe.ended || pipe.buffer.isEmpty && !pipe.holdsBody } := by
  obtain rfl : pipe.read.2 = after := congrArg Prod.snd read
  cases frames : pipe.buffer with
  | nil => simp [read_nil frames, frames]
  | cons frame rest => simp [read_cons frames]

/-- There is something to read in a pipe that holds frames, and at the end. -/
theorem read_present {pipe : Pipe} (something : pipe.buffer ≠ [] ∨ pipe.holdsBody = false) :
    pipe.read.1 ≠ .pending := by
  cases frames : pipe.buffer with
  | cons frame rest =>
    rw [read_cons frames]
    exact Reading.ofFrame_ne_pending frame
  | nil =>
    have let_go : pipe.holdsBody = false := by simpa [frames] using something
    rw [read_nil frames]
    cases pipe.ended <;> cases pipe.finished <;> simp [let_go]

theorem read_finish {pipe after : Pipe} (read : pipe.read = (.finish, after)) :
    pipe.buffer = [] ∧ (pipe.ended = true ∨ pipe.holdsBody = false) := by
  cases frames : pipe.buffer with
  | cons frame rest =>
    rw [read_cons frames] at read
    cases frame <;> simp [Reading.ofFrame] at read
  | nil =>
    rw [read_nil frames] at read
    refine ⟨rfl, ?_⟩
    cases ended : pipe.ended <;> cases holds : pipe.holdsBody <;> simp [ended, holds] at read ⊢

/-- The readings of a body one after another. -/
def readings : Nat → Pipe → List Reading
  | 0, _ => []
  | count + 1, pipe => pipe.read.1 :: readings count pipe.read.2

/-- The last readings of a body whose writer has let go. -/
def outcome (pipe : Pipe) : List Reading :=
  if pipe.ended || pipe.finished then [.finish] else [.fault .connectionClosed, .finish]

/-- Everything there is to read once the writer has let go. -/
def outlook (pipe : Pipe) : List Reading := pipe.buffer.map .ofFrame ++ pipe.outcome

theorem readings_outcome {pipe : Pipe} (buffer : pipe.buffer = []) (let_go : pipe.holdsBody = false) :
    pipe.readings pipe.outcome.length = pipe.outcome := by
  obtain ⟨holdsHead, holdsBody, finished, slot, receives, frames, ended⟩ := pipe
  cases buffer
  cases let_go
  cases ended <;> cases finished <;> rfl

theorem readings_outlook {pipe : Pipe} (let_go : pipe.holdsBody = false) :
    pipe.readings pipe.outlook.length = pipe.outlook := by
  -- each reading takes a frame off, and the end that waits behind the frames stays the same
  generalize same : pipe.buffer = frames
  induction frames generalizing pipe with
  | nil => simpa [outlook, same] using readings_outcome same let_go
  | cons frame rest ih =>
    have tail := @ih { pipe with buffer := rest } let_go rfl
    simp only [outlook, same, List.map_cons, List.cons_append, List.length_cons, readings, read_cons same]
    exact congrArg (Reading.ofFrame frame :: ·) tail

end Pipe

/-- An engine: the heads it took, each with the flag of a live body, whether it holds a body, and what it heard. -/
structure Listener where
  responses : List (Head × Bool)
  holdsBody : Bool
  heard : List Pipe.Reading

namespace Listener

def fresh : Listener := ⟨[], false, []⟩

/-- The engine takes the response, or reads from a body that has not ended. -/
inductive Hears : Pipe → Listener → Pipe → Listener → Prop where
  | head {pipe after : Pipe} {listener : Listener} {response : Head × Bool} :
      pipe.takeHead? = (some response, after) →
      Hears pipe listener after
        { listener with responses := listener.responses ++ [response], holdsBody := true }
  | frame {pipe after : Pipe} {listener : Listener} {reading : Pipe.Reading} :
      listener.holdsBody = true → .finish ∉ listener.heard → pipe.read = (reading, after) → reading ≠ .pending →
      Hears pipe listener after { listener with heard := listener.heard ++ [reading] }

/-- The engine goes away, before it has the response or after. -/
inductive Leaves : Pipe → Listener → Pipe → Listener → Prop where
  | response {pipe : Pipe} {listener : Listener} : Leaves pipe listener pipe.dropHead listener
  | body {pipe : Pipe} {listener : Listener} : listener.holdsBody = true →
      Leaves pipe listener pipe.dropBody { listener with holdsBody := false }

def chunk? : Pipe.Reading → Option Bytes
  | .chunk bytes => some bytes
  | _ => none

/-- The data received. -/
def chunks (listener : Listener) : List Bytes := listener.heard.filterMap chunk?

/-- The body ended, and no error came before the end. -/
def EndsCleanly (listener : Listener) : Prop :=
  .finish ∈ listener.heard ∧ ∀ cause, .fault cause ∉ listener.heard

end Listener

end Sluice
