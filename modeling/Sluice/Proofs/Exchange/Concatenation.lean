import Sluice.Proofs.Exchange.Operation

/-! Streams written one after another. A stream that was forwarded without an error leaves the response open for the
next one, so forwarding streams in turn is forwarding all their chunks as one stream, over any writer. -/

set_option autoImplicit false

namespace Sluice

namespace Outbound

open Program

variable {response : Outbound} {history : List (Exchange Writer.interface)}

theorem forwardChunks_append (response : Outbound) (first second : Chunks) :
    response.forwardChunks (first ++ second) =
      (response.forwardChunks first).bind (goOn (·.forwardChunks second)) := by
  induction first generalizing response with
  | nil => rfl
  | cons chunk rest ih =>
    cases chunk with
    | ok bytes =>
      rw [List.cons_append, forwardChunks_ok, forwardChunks_ok, goOn_bind]
      simp only [ih]
    | error cause =>
      -- what follows a failure is not looked at
      change (response.setComplete _).bind _ = ((response.setComplete _).bind _).bind _
      rw [bind_assoc]
      rfl

/-- What came out well leaves the response open for more. -/
def Going (result : Except Fault Unit × Outbound) (_ : List (Exchange Writer.interface)) : Prop :=
  result.1 = .ok () → result.2.phase ≠ .complete

theorem going_error (cause : Fault) (response : Outbound) (history : List (Exchange Writer.interface)) :
    Going (.error cause, response) history := nofun

theorem sendHeaders_going (response : Outbound) :
    response.sendHeaders.Ensures (World.free Writer.interface) Going history := by
  unfold sendHeaders
  cases phase : response.phase with
  | committed => simp [Going, phase]
  | complete => exact going_error _ _ _
  | initial =>
    rw [ensures_free_ask]
    intro now
    cases response.head now with
    | error cause => exact going_error _ _ _
    | ok head =>
      rw [ensures_free_ask]
      intro outcome
      cases outcome with
      | ok done => simp [Going]
      | error cause => exact going_error _ _ _

theorem writeData_going (response : Outbound) (bytes : Bytes) :
    (response.writeData bytes).Ensures (World.free Writer.interface) Going history := by
  rw [writeData_eq]
  refine ensures_goOn (sendHeaders_going response) (fun _ _ _ came => came) fun sent after going => ?_
  rw [ensures_free_ask]
  intro outcome
  cases outcome with
  | ok done => exact going
  | error cause => exact going_error _ _ _

theorem forwardChunks_going (going : response.phase ≠ .complete) (body : Chunks) :
    (response.forwardChunks body).Ensures (World.free Writer.interface) Going history := by
  induction body generalizing response history with
  | nil => exact fun _ => going
  | cons chunk rest ih =>
    cases chunk with
    | ok bytes =>
      exact ensures_goOn (writeData_going response bytes) (fun _ _ _ came => came) fun written after going =>
        ih (going rfl)
    | error cause =>
      have aborted : (response.setComplete (some (.status cause.statusCode))).Ensures
          (World.free Writer.interface) (fun _ _ => True) history :=
        Ensures.always (fun _ _ _ _ _ _ => trivial) _ trivial
      exact aborted.bind fun completed after _ => going_error _ _ _

/-- Forwarding streams in turn is forwarding them as one. -/
theorem forwardAll_flatten (going : response.phase ≠ .complete) (bodies : List Chunks) :
    response.forwardAll bodies = response.forward bodies.flatten := by
  rw [forward_going going]
  induction bodies generalizing response with
  | nil => rfl
  | cons body rest ih =>
    rw [forwardAll_cons, forward_going going, List.flatten_cons, forwardChunks_append]
    have first : (response.forwardChunks body).Ensures (World.free Writer.interface) Going [] :=
      forwardChunks_going going body
    -- the check before the next stream finds the response open
    refine (first.mono ?_).bind_congr
    rintro ⟨outcome, forwarded⟩ after going
    cases outcome with
    | ok done => exact ih (going rfl)
    | error cause => rfl

/-- A response that is not complete is written the streams as it would be their chunks in one stream: the same
questions to the writer, and for all its answers the same result and the same response after it. -/
theorem writeAndFlushWith_eq_writeWith (response : Outbound) (going : response.phase ≠ .complete)
    (bodies : List Chunks) : response.writeAndFlushWith bodies = response.writeWith bodies.flatten := by
  rw [writeAndFlushWith, forwardAll_flatten going, writeWith]

/-- Streams of which the first is empty and the second fails before the third begins. -/
theorem fresh_streams_joined :
    fresh.phase ≠ .complete ∧
      fresh.writeAndFlushWith [[], [.ok [0x61], .error .connectionClosed], [.ok [0x62]]] =
        fresh.writeWith [.ok [0x61], .error .connectionClosed, .ok [0x62]] :=
  ⟨by decide, writeAndFlushWith_eq_writeWith fresh (by decide) [[], [.ok [0x61], .error .connectionClosed], [.ok [0x62]]]⟩

end Outbound

end Sluice
