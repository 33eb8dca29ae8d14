import Sluice.Proofs.Exchange.Course

/-! A complete response stays as it is. Each operation answers at once, without a question to the writer, and every
one that would write refuses; only a flush of no streams at all finds nothing to write and succeeds. -/

set_option autoImplicit false

namespace Sluice

namespace Outbound

variable {response : Outbound}

theorem setStatus_of_complete (complete : response.phase = .complete) (status : Status) :
    response.setStatus status = (false, response) := by
  simp [setStatus, isCommitted, complete]

theorem editHeaders_of_complete (complete : response.phase = .complete) (edit : Headers → Headers) :
    response.editHeaders edit = (.error .headersCommitted, response) := by
  simp [editHeaders, isCommitted, complete]

theorem addCookie_of_complete (complete : response.phase = .complete) (cookie : SetCookie) :
    response.addCookie cookie = (.error .headersCommitted, response) := by
  simp [addCookie, isCommitted, complete]

theorem sendHeaders_of_complete (complete : response.phase = .complete) :
    response.sendHeaders = .done (.error .responseComplete, response) := by
  simp [sendHeaders, complete]

theorem setComplete_of_complete (complete : response.phase = .complete) (cause : Option Fault) :
    response.setComplete cause = .done response := by
  simp [setComplete, complete]

theorem forward_of_complete (complete : response.phase = .complete) (body : Chunks) :
    response.forward body = .done (.error .responseComplete, response) := by
  simp [forward, complete]

theorem writeWith_of_complete (complete : response.phase = .complete) (body : Chunks) :
    response.writeWith body = .done (.error .responseComplete, response) := by
  rw [writeWith, forward_of_complete complete]
  rfl

/-- The check for completion is made for each stream, so without streams there is none. -/
theorem writeAndFlushWith_of_complete (complete : response.phase = .complete) (bodies : List Chunks) :
    response.writeAndFlushWith bodies =
      .done (if bodies = [] then .ok () else .error .responseComplete, response) := by
  cases bodies with
  | nil =>
    change (response.setComplete none).bind _ = _
    rw [setComplete_of_complete complete]
    rfl
  | cons body rest =>
    rw [writeAndFlushWith, forwardAll, forward_of_complete complete]
    rfl

end Outbound

/-- The response is still the given one, and nothing was asked of its writer. -/
def Untouched (response current : Outbound) (history : List (Exchange Writer.interface)) : Prop :=
  current = response ∧ Writer.uses history = []

namespace Handler

open Program

/-- Every operation leaves a complete response and its writer alone. -/
theorem perform_untouched {response : Outbound} (complete : response.phase = .complete) (question : Ask)
    (current : Outbound) (history : List (Exchange Writer.interface)) (same : Untouched response current history) :
    (perform question current).Ensures (World.free Writer.interface)
      (fun result after => Untouched response result.2 after) history := by
  obtain ⟨rfl, unused⟩ := same
  have kept : Untouched current current history := ⟨rfl, unused⟩
  cases question with
  | look => exact kept
  | setStatus status => simpa [perform, Outbound.setStatus_of_complete complete] using kept
  | editHeaders edit => simpa [perform, Outbound.editHeaders_of_complete complete] using kept
  | addCookie cookie => simpa [perform, Outbound.addCookie_of_complete complete] using kept
  | sendHeaders => simpa [perform, Outbound.sendHeaders_of_complete complete] using kept
  | writeWith body => simpa [perform, Outbound.writeWith_of_complete complete] using kept
  | writeAndFlushWith bodies => simpa [perform, Outbound.writeAndFlushWith_of_complete complete] using kept
  | setComplete cause => simpa [perform, Outbound.setComplete_of_complete complete] using kept
  | note line => simpa [perform, Untouched] using unused

end Handler

theorem Script.onResponse_untouched {α : Type} {response : Outbound} (complete : response.phase = .complete)
    (script : Script α) :
    (script.onResponse response).Ensures (World.free Writer.interface)
      (fun result after => Untouched response result.2 after) [] :=
  Program.Ensures.interpret (Handler.perform_untouched complete) script
    (show Untouched response response [] from ⟨rfl, rfl⟩)

namespace Outbound

open Program

/-- Completion is final, for each operation and for whatever is done after it. Of the writing operations only a
flush that brings no stream does not report it. -/
theorem complete_is_final (response : Outbound) (complete : response.phase = .complete) :
    (∀ status, response.setStatus status = (false, response)) ∧
    (∀ edit, response.editHeaders edit = (.error .headersCommitted, response)) ∧
    (∀ cookie, response.addCookie cookie = (.error .headersCommitted, response)) ∧
    (∀ cause, response.setComplete cause = .done response) ∧
    response.sendHeaders = .done (.error .responseComplete, response) ∧
    (∀ body, response.writeWith body = .done (.error .responseComplete, response)) ∧
    (∀ bodies, bodies ≠ [] →
      response.writeAndFlushWith bodies = .done (.error .responseComplete, response)) ∧
    response.writeAndFlushWith [] = .done (.ok (), response) ∧
    ∀ {α : Type} (script : Script α) trace rest, (script.onResponse response).Reaches trace rest →
      Writer.uses trace = [] ∧ ∀ result, rest = .done result → result.2 = response := by
  refine ⟨setStatus_of_complete complete, editHeaders_of_complete complete, addCookie_of_complete complete,
    setComplete_of_complete complete, sendHeaders_of_complete complete, writeWith_of_complete complete, ?_, ?_, ?_⟩
  · intro bodies some
    simp [writeAndFlushWith_of_complete complete, some]
  · simp [writeAndFlushWith_of_complete complete]
  · intro α script trace rest run
    constructor
    · -- a use in a run that was stopped would be one in a run to the end
      obtain ⟨more, result, whole⟩ := run.extend
      have unused := ((Script.onResponse_untouched complete script).of_reaches whole).2
      rw [List.nil_append, Writer.uses_append] at unused
      exact (List.append_eq_nil_iff.1 unused).1
    · rintro result rfl
      exact ((Script.onResponse_untouched complete script).of_reaches run).1

def completed : Outbound := { fresh with phase := .complete }

theorem completed_is_final :
    completed.phase = .complete ∧
    completed.setStatus .badRequest = (false, completed) ∧
    completed.writeWith [] = .done (.error .responseComplete, completed) ∧
    completed.writeAndFlushWith [[]] = .done (.error .responseComplete, completed) := by
  have final := complete_is_final completed rfl
  exact ⟨rfl, final.1 _, final.2.2.2.2.2.1 _, final.2.2.2.2.2.2.1 _ (by simp)⟩

/-- A response completed over a writer that takes every call does not refuse a flush of no streams. -/
theorem empty_flush_not_refused :
    (fresh.setComplete none).Reaches
      [⟨.isOpen, true⟩, ⟨.now, (0 : Int)⟩, ⟨.call (.head ⟨.ok, HeaderMap.empty⟩), .ok ()⟩, ⟨.call .close, .ok ()⟩]
      (.done completed) ∧
    completed.phase = .complete ∧
    completed.writeAndFlushWith [] ≠ .done (.error .responseComplete, completed) := by
  refine ⟨.step (.step (.step (.step .here))), rfl, ?_⟩
  rw [writeAndFlushWith_of_complete rfl]
  simp

end Outbound

end Sluice
