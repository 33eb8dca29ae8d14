import Sluice.Proofs.Exchange.Head

/-! A body written over a writer that takes every call and is open until it is ended. The calls are the head, if it
is not out and something needs it, one for each chunk in order, and one that ends the response: it closes after a
body that came to its end and aborts after one that failed. -/

set_option autoImplicit false

namespace Sluice

namespace Writer

/-- None of the calls ends the response. -/
def Unended (calls : List Call) : Prop := ∀ call ∈ calls, call.isEnd = false

theorem Unended.nil : Unended [] := nofun

theorem Unended.append {first second : List Call} (unended : Unended first) (more : Unended second) :
    Unended (first ++ second) := List.forall_mem_append.2 ⟨unended, more⟩

/-- A writer that takes every call and is open until it is ended, with the calls that it took. -/
def steady : World interface (List Call)
  | .call call, calls, outcome, after => outcome = .ok () ∧ after = calls ++ [call]
  | .isOpen, calls, isOpen, after => (Unended calls → isOpen = true) ∧ after = calls
  | .now, calls, _, after | .note _, calls, _, after => after = calls

theorem steady_answers (question : Ask) (calls : List Call) :
    ∃ answer after, steady question calls answer after := by
  cases question with
  | call call => exact ⟨.ok (), calls ++ [call], rfl, rfl⟩
  | isOpen => exact ⟨true, calls, fun _ => rfl, rfl⟩
  | now => exact ⟨(0 : Int), calls, rfl⟩
  | note line => exact ⟨(), calls, rfl⟩

section
variable {α : Type} {post : α → List Call → Prop} {calls : List Call}

@[simp] theorem ensures_steady_call (call : Call) (resume : Except Fault Unit → Writing α) :
    (Program.ask (I := interface) (.call call) resume).Ensures steady post calls ↔
      (resume (.ok ())).Ensures steady post (calls ++ [call]) := by
  simp [Program.ensures_ask, steady]

@[simp] theorem ensures_steady_now (resume : Instant → Writing α) :
    (Program.ask (I := interface) .now resume).Ensures steady post calls ↔
      ∀ now, (resume now).Ensures steady post calls := by
  simp [Program.ensures_ask, steady]

theorem ensures_steady_isOpen (unended : Unended calls) (resume : Bool → Writing α) :
    (Program.ask (I := interface) .isOpen resume).Ensures steady post calls ↔
      (resume true).Ensures steady post calls := by
  constructor
  · exact fun ensured => ensured true calls ⟨fun _ => rfl, rfl⟩
  · rintro ensured isOpen after ⟨isTrue, rfl⟩
    obtain rfl := isTrue unended
    exact ensured

end

end Writer

namespace Chunks

def data : Chunks → List Bytes
  | .ok bytes :: rest => bytes :: data rest
  | _ => []

def failure? : Chunks → Option Fault
  | [] => none
  | .ok _ :: rest => failure? rest
  | .error cause :: _ => some cause

/-- There is a chunk to send after the head, or the end of the body comes after no failure. -/
def needsHead (body : Chunks) : Bool := !body.data.isEmpty || body.failure?.isNone

def ending (body : Chunks) : Writer.Call :=
  match body.failure? with
  | none => .close
  | some cause => .closeWith (.status cause.statusCode)

def outcome (body : Chunks) : Except Fault Unit :=
  match body.failure? with
  | none => .ok ()
  | some cause => .error cause

end Chunks

namespace Outbound

open Program Writer

variable {response : Outbound} {calls : List Call}

/-- The calls that bring the head out: one, unless it is out. -/
def Introduces (response : Outbound) (opening : List Call) : Prop :=
  if response.phase = .initial then ∃ now head, response.head now = .ok head ∧ opening = [.head head]
  else opening = []

theorem Introduces.unended {opening : List Call} (introduces : response.Introduces opening) : Unended opening := by
  unfold Introduces at introduces
  split at introduces
  · obtain ⟨now, head, -, rfl⟩ := introduces
    exact List.forall_mem_singleton.2 rfl
  · rw [introduces]
    exact nofun

theorem introduces_committed {opening : List Call} (committed : response.phase = .committed) :
    response.Introduces opening ↔ opening = [] := by
  simp [Introduces, committed]

/-- The response may be written: it is not complete, and its head is out or can be built. -/
structure Writable (response : Outbound) : Prop where
  going : response.phase ≠ .complete
  sendable : response.phase = .initial → response.Encodable

theorem writable_committed (committed : response.phase = .committed) : response.Writable := by
  constructor <;> simp [committed]

theorem sendHeaders_steady (writable : response.Writable) :
    response.sendHeaders.Ensures steady (fun result after =>
      result = (.ok (), { response with phase := .committed }) ∧
        ∃ opening, response.Introduces opening ∧ after = calls ++ opening) calls := by
  unfold sendHeaders
  cases phase : response.phase with
  | complete => exact absurd phase writable.going
  | committed =>
    refine ⟨?_, [], by simp [Introduces, phase], by simp⟩
    rw [← phase]
  | initial =>
    rw [ensures_steady_now]
    intro now
    obtain ⟨head, built⟩ := head_ok (writable.sendable phase) now
    simp only [built, ensures_steady_call]
    refine ⟨rfl, [.head head], ?_, rfl⟩
    simp only [Introduces, phase, if_true]
    exact ⟨now, head, built, rfl⟩

theorem writeData_steady (writable : response.Writable) (bytes : Bytes) :
    (response.writeData bytes).Ensures steady (fun result after =>
      result = (.ok (), { response with phase := .committed }) ∧
        ∃ opening, response.Introduces opening ∧ after = calls ++ opening ++ [.data bytes]) calls := by
  rw [writeData_eq]
  refine ensures_goOn_ok (sendHeaders_steady writable) ?_
  rintro after ⟨opening, introduces, rfl⟩
  rw [ensures_steady_call]
  exact ⟨rfl, opening, introduces, rfl⟩

theorem abort_steady (going : response.phase ≠ .complete) (unended : Unended calls) (cause : Fault) :
    (response.setComplete (some cause)).Ensures steady (fun completed after =>
      completed = { response with phase := .complete } ∧ after = calls ++ [.closeWith cause]) calls := by
  unfold setComplete
  cases phase : response.phase with
  | complete => exact absurd phase going
  | initial | committed =>
    rw [ensures_steady_isOpen unended]
    simp

theorem complete_steady (writable : response.Writable) (unended : Unended calls) :
    (response.setComplete none).Ensures steady (fun completed after =>
      completed = { response with phase := .complete } ∧
        ∃ opening, response.Introduces opening ∧ after = calls ++ opening ++ [.close]) calls := by
  unfold setComplete
  cases phase : response.phase with
  | complete => exact absurd phase writable.going
  | initial | committed =>
    rw [ensures_steady_isOpen unended]
    refine (sendHeaders_steady writable).bind ?_
    rintro result after ⟨rfl, opening, introduces, rfl⟩
    simp only [ensures_steady_call]
    exact ⟨rfl, opening, introduces, rfl⟩

/-- What forwarding a body comes to once the head is out. -/
def Forwarded (response : Outbound) (body : Chunks) (calls : List Call) (result : Except Fault Unit × Outbound)
    (after : List Call) : Prop :=
  match body.failure? with
  | none => result = (.ok (), { response with phase := .committed }) ∧ after = calls ++ body.data.map .data
  | some cause => result = (.error cause, { response with phase := .complete }) ∧
      after = calls ++ body.data.map .data ++ [.closeWith (.status cause.statusCode)]

/-- A chunk in front is one more call in front. -/
theorem Forwarded.cons {bytes : Bytes} {rest : Chunks} {result : Except Fault Unit × Outbound} {after : List Call}
    (forwarded : Forwarded { response with phase := .committed } rest (calls ++ [.data bytes]) result after) :
    response.Forwarded (.ok bytes :: rest) calls result after := by
  unfold Forwarded at forwarded ⊢
  simp only [Chunks.failure?, Chunks.data, List.map_cons]
  cases failed : rest.failure? <;> simpa [failed] using forwarded

theorem forwardChunks_steady (committed : response.phase = .committed) (body : Chunks) (unended : Unended calls) :
    (response.forwardChunks body).Ensures steady (response.Forwarded body calls) calls := by
  induction body generalizing response calls with
  | nil =>
    have same : { response with phase := .committed } = response := by rw [← committed]
    exact ⟨by rw [same], by simp [Chunks.data]⟩
  | cons chunk rest ih =>
    cases chunk with
    | ok bytes =>
      rw [forwardChunks_ok]
      refine ensures_goOn_ok (writeData_steady (writable_committed committed) bytes) ?_
      rintro after ⟨opening, introduces, rfl⟩
      -- the head is out, so all that is added is the chunk
      rw [(introduces_committed committed).1 introduces, List.append_nil]
      have more : Unended (calls ++ [.data bytes]) := unended.append (List.forall_mem_singleton.2 rfl)
      exact (ih rfl more).mono fun result after forwarded => forwarded.cons
    | error cause =>
      refine (abort_steady (writable_committed committed).going unended _).bind ?_
      rintro completed after ⟨rfl, rfl⟩
      exact ⟨rfl, by simp [Chunks.data]⟩

/-- The head before a body: it is due unless the body fails at once. -/
def Due (response : Outbound) (body : Chunks) (opening : List Call) : Prop :=
  if body.needsHead then response.Introduces opening else opening = []

/-- What becomes of a body that is written over a steady writer. -/
structure Delivered (response : Outbound) (body : Chunks) (calls : List Call) (result : Except Fault Unit × Outbound) :
    Prop where
  /-- The head, if it is due, then the chunks in order, then the one call that ends the response. -/
  calls : ∃ opening, response.Due body opening ∧ calls = opening ++ body.data.map .data ++ [body.ending]
  result : result = (body.outcome, { response with phase := .complete })

theorem forward_steady (writable : response.Writable) (chunk : Except Fault Bytes) (rest : Chunks) :
    (response.forwardChunks (chunk :: rest)).Ensures steady (fun result after =>
      ∃ opening, response.Due (chunk :: rest) opening ∧ Unended opening ∧
        response.Forwarded (chunk :: rest) opening result after) [] := by
  cases chunk with
  | error cause =>
    refine (abort_steady writable.going .nil _).bind ?_
    rintro completed after ⟨rfl, rfl⟩
    exact ⟨[], rfl, .nil, rfl, rfl⟩
  | ok bytes =>
    rw [forwardChunks_ok]
    refine ensures_goOn_ok (writeData_steady writable bytes) ?_
    rintro after ⟨opening, introduces, rfl⟩
    have unended : Unended opening := introduces.unended
    have more : Unended ([] ++ opening ++ [.data bytes]) :=
      unended.append (List.forall_mem_singleton.2 rfl)
    exact (forwardChunks_steady rfl rest more).mono fun result after forwarded =>
      ⟨opening, introduces, unended, forwarded.cons⟩

/-- The end of a write: after a failure nothing more is called, else the writer is closed. -/
theorem finishAfter_steady {body : Chunks} {opening after : List Call} {result : Except Fault Unit × Outbound}
    (due : response.Due body opening) (unended : Unended opening)
    (forwarded : response.Forwarded body opening result after) :
    (finishAfter result).Ensures steady (fun result calls => response.Delivered body calls result) after := by
  unfold Forwarded at forwarded
  cases failed : body.failure? with
  | some cause =>
    simp only [failed] at forwarded
    obtain ⟨rfl, rfl⟩ := forwarded
    exact ⟨⟨opening, due, by simp [Chunks.ending, failed]⟩, by simp [Chunks.outcome, failed]⟩
  | none =>
    simp only [failed] at forwarded
    obtain ⟨rfl, rfl⟩ := forwarded
    have more : Unended (opening ++ body.data.map .data) := unended.append (by simp [Unended, Call.isEnd])
    refine (complete_steady (writable_committed rfl) more).bind ?_
    rintro completed after ⟨rfl, again, introduces, rfl⟩
    -- the head is out, so the completion does not bring it again
    obtain rfl := (introduces_committed rfl).1 introduces
    exact ⟨⟨opening, due, by simp [Chunks.ending, failed]⟩, by simp [Chunks.outcome, failed]⟩

theorem writeWith_steady (writable : response.Writable) (body : Chunks) :
    (response.writeWith body).Ensures steady (fun result calls => response.Delivered body calls result) [] := by
  rw [writeWith, forward_going writable.going]
  cases body with
  | nil =>
    refine (complete_steady writable .nil).bind ?_
    rintro completed after ⟨rfl, opening, introduces, rfl⟩
    exact ⟨⟨opening, introduces, by simp [Chunks.data, Chunks.ending, Chunks.failure?]⟩, rfl⟩
  | cons chunk rest =>
    refine (forward_steady writable chunk rest).bind ?_
    rintro result after ⟨opening, due, unended, forwarded⟩
    exact finishAfter_steady due unended forwarded

/-- After a failure nothing of the body is looked at. -/
theorem forwardChunks_failed (response : Outbound) {body : Chunks} (failed : body.failure? ≠ none) (rest : Chunks) :
    response.forwardChunks (body ++ rest) = response.forwardChunks body := by
  induction body generalizing response with
  | nil => exact absurd rfl failed
  | cons chunk more ih =>
    cases chunk with
    | error cause => rfl
    | ok bytes =>
      rw [List.cons_append, forwardChunks_ok, forwardChunks_ok]
      simp only [ih _ failed]

/-- A writable response over a steady writer delivers any body: the write comes to its end with exactly the calls that
the body asks for, and after a failure the rest of the body makes no difference. -/
theorem writeWith_delivers (response : Outbound) (writable : response.Writable) (body : Chunks) :
    (∃ trace result calls, (response.writeWith body).Reaches trace (.done result) ∧ steady.Gives [] trace calls) ∧
      (∀ trace result calls, (response.writeWith body).Reaches trace (.done result) → steady.Gives [] trace calls →
        response.Delivered body calls result) ∧
      (body.failure? ≠ none → ∀ rest, response.writeWith (body ++ rest) = response.writeWith body) := by
  refine ⟨reaches_end steady_answers _ _, ?_, ?_⟩
  · intro trace result calls run gives
    exact (writeWith_steady writable body).of_gives run gives
  · intro failed rest
    rw [writeWith, writeWith, forward_going writable.going, forward_going writable.going,
      forwardChunks_failed response failed]

theorem fresh_writable : fresh.Writable where
  going := nofun
  sendable _ := ⟨nofun, nofun⟩

/-- A body that breaks off after two chunks, the second of them empty. -/
theorem broken_off_delivered :
    fresh.Writable ∧
      let body : Chunks := [.ok [0x61], .ok [], .error (.notImplemented "later"), .ok [0x62]]
      (∃ trace result calls, (fresh.writeWith body).Reaches trace (.done result) ∧ steady.Gives [] trace calls) ∧
        ∀ trace result calls, (fresh.writeWith body).Reaches trace (.done result) → steady.Gives [] trace calls →
          (∃ head, calls = [.head head, .data [0x61], .data [], .closeWith (.status .notImplemented)]) ∧
            result = (.error (.notImplemented "later"), { fresh with phase := .complete }) := by
  refine ⟨fresh_writable, ?_⟩
  intro body
  obtain ⟨comesToEnd, delivers, -⟩ := writeWith_delivers fresh fresh_writable body
  refine ⟨comesToEnd, ?_⟩
  intro trace result calls run gives
  obtain ⟨⟨opening, due, made⟩, returned⟩ := delivers trace result calls run gives
  obtain ⟨now, head, -, rfl⟩ : ∃ now head, fresh.head now = .ok head ∧ opening = [.head head] := due
  exact ⟨⟨head, made⟩, returned⟩

end Outbound

end Sluice
