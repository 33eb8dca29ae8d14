import Sluice.Exchange.Handler
import Sluice.Proofs.Program

/-! The operations of a response, taken apart. They are chains of steps of which each goes on only where the one before
went well, and the steps are few: the head, a chunk, a look at the writer and the end. A condition on the response that
each of these keeps is kept by every operation, once what the operation itself changes is allowed for. -/

set_option autoImplicit false

namespace Sluice

namespace Outbound

open Program

variable {σ : Type} {world : World Writer.interface σ} {response : Outbound} {state : σ}

/-- Goes on with the response unless an error came before. -/
def goOn (next : Outbound → Writing (Except Fault Unit × Outbound)) :
    Except Fault Unit × Outbound → Writing (Except Fault Unit × Outbound)
  | (.ok (), response) => next response
  | (.error cause, response) => .done (.error cause, response)

/-- Of two steps the second counts only where the first went well. -/
theorem ensures_goOn {middle post : Except Fault Unit × Outbound → σ → Prop}
    {first : Writing (Except Fault Unit × Outbound)} {next : Outbound → Writing (Except Fault Unit × Outbound)}
    (ensured : first.Ensures world middle state)
    (stops : ∀ cause response after, middle (.error cause, response) after → post (.error cause, response) after)
    (goes : ∀ response after, middle (.ok (), response) after → (next response).Ensures world post after) :
    (first.bind (goOn next)).Ensures world post state := by
  refine ensured.bind ?_
  rintro ⟨outcome, response⟩ after came
  cases outcome with
  | ok done => exact goes response after came
  | error cause => exact stops cause response after came

/-- Where the first step is known to go well, only the second counts. -/
theorem ensures_goOn_ok {post : Except Fault Unit × Outbound → σ → Prop} {held : σ → Prop}
    {first : Writing (Except Fault Unit × Outbound)} {next : Outbound → Writing (Except Fault Unit × Outbound)}
    (ensured : first.Ensures world (fun result after => result = (.ok (), response) ∧ held after) state)
    (goes : ∀ after, held after → (next response).Ensures world post after) :
    (first.bind (goOn next)).Ensures world post state := by
  refine ensured.bind ?_
  rintro result after ⟨rfl, held⟩
  exact goes after held

theorem goOn_bind (first : Writing (Except Fault Unit × Outbound))
    (second third : Outbound → Writing (Except Fault Unit × Outbound)) :
    (first.bind (goOn second)).bind (goOn third) =
      first.bind (goOn fun response => (second response).bind (goOn third)) := by
  rw [bind_assoc]
  congr 1
  funext ⟨outcome, response⟩
  cases outcome <;> rfl

theorem writeData_eq (response : Outbound) (bytes : Bytes) :
    response.writeData bytes = response.sendHeaders.bind (goOn fun sent =>
      .ask (.call (.data bytes)) fun
        | .ok () => .done (.ok (), sent)
        | .error cause => .done (.error cause, { sent with phase := .complete })) := by
  unfold writeData
  congr 1
  funext ⟨outcome, sent⟩
  cases outcome <;> rfl

theorem forwardChunks_ok (response : Outbound) (bytes : Bytes) (rest : Chunks) :
    response.forwardChunks (.ok bytes :: rest) = (response.writeData bytes).bind (goOn (·.forwardChunks rest)) := rfl

theorem forward_going (going : response.phase ≠ .complete) (body : Chunks) :
    response.forward body = response.forwardChunks body := by
  unfold forward
  cases phase : response.phase with
  | complete => exact absurd phase going
  | initial | committed => rfl

theorem forwardAll_cons (response : Outbound) (body : Chunks) (rest : List Chunks) :
    response.forwardAll (body :: rest) = (response.forward body).bind (goOn (·.forwardAll rest)) := rfl

theorem finishAfter_eq : finishAfter =
    goOn fun response => (response.setComplete none).bind fun completed => .done (.ok (), completed) := by
  funext ⟨outcome, response⟩
  cases outcome <;> rfl

/-- The phase after a call: the given one if the writer took it. -/
def phaseAfter (taken : Phase) : Except Fault Unit → Phase
  | .ok () => taken
  | .error _ => .complete

/-- What an operation changes of a response by itself, as long as the head is not out. -/
def amend : Handler.Ask → Outbound → Outbound
  | .setStatus status, response => { response with status := some status }
  | .editHeaders edit, response => { response with headers := edit response.headers }
  | .addCookie cookie, response => { response with cookies := response.cookies.add cookie.name cookie }
  | _, response => response

/-- The response with which an operation goes to the writer. -/
def entered (question : Handler.Ask) (response : Outbound) : Outbound :=
  if response.phase = .initial then amend question response else response

@[simp] theorem amend_phase (question : Handler.Ask) (response : Outbound) :
    (amend question response).phase = response.phase := by
  cases question <;> rfl

@[simp] theorem entered_phase (question : Handler.Ask) (response : Outbound) :
    (entered question response).phase = response.phase := by
  unfold entered
  split
  · exact amend_phase question response
  · rfl

theorem setStatus_entered (response : Outbound) (status : Status) :
    (response.setStatus status).2 = entered (.setStatus status) response := by
  by_cases initial : response.phase = .initial <;> simp [setStatus, isCommitted, entered, amend, initial]

theorem editHeaders_entered (response : Outbound) (edit : Headers → Headers) :
    (response.editHeaders edit).2 = entered (.editHeaders edit) response := by
  by_cases initial : response.phase = .initial <;> simp [editHeaders, isCommitted, entered, amend, initial]

theorem addCookie_entered (response : Outbound) (cookie : SetCookie) :
    (response.addCookie cookie).2 = entered (.addCookie cookie) response := by
  by_cases initial : response.phase = .initial <;> simp [addCookie, isCommitted, entered, amend, initial]

/-- Every question that a response may ask keeps a condition on the response and the state of the world. -/
structure Carries (world : World Writer.interface σ) (condition : Outbound → σ → Prop) : Prop where
  unbuilt : ∀ {response state now cause after}, response.phase = .initial → condition response state →
    world .now state now after → response.head now = .error cause → condition response after
  head : ∀ {response state now asked head outcome after}, response.phase = .initial → condition response state →
    world .now state now asked → response.head now = .ok head → world (.call (.head head)) asked outcome after →
    condition { response with phase := phaseAfter .committed outcome } after
  data : ∀ {response bytes state outcome after}, response.phase = .committed → condition response state →
    world (.call (.data bytes)) state outcome after →
    condition { response with phase := phaseAfter .committed outcome } after
  isOpen : ∀ {response state after}, response.phase ≠ .complete → condition response state →
    world .isOpen state true after → condition response after
  shut : ∀ {response state after}, response.phase ≠ .complete → condition response state →
    world .isOpen state false after → condition { response with phase := .complete } after
  close : ∀ {response state outcome after}, response.phase = .committed → condition response state →
    world (.call .close) state outcome after → condition { response with phase := .complete } after
  closeWith : ∀ {response cause state outcome after}, response.phase ≠ .complete → condition response state →
    world (.call (.closeWith cause)) state outcome after → condition { response with phase := .complete } after
  note : ∀ {response line state answer after}, condition response state →
    world (.note line) state answer after → condition response after

namespace Carries

variable {condition : Outbound → σ → Prop}

/-- The head is out exactly if sending it went well. -/
theorem sendHeaders (carries : Carries world condition) (holds : condition response state) :
    response.sendHeaders.Ensures world (fun result after =>
      condition result.2 after ∧ (result.1 = .ok () ↔ result.2.phase = .committed)) state := by
  unfold Outbound.sendHeaders
  cases phase : response.phase with
  | committed => simpa [phase] using holds
  | complete => simpa [phase] using holds
  | initial =>
    rw [ensures_ask]
    intro now asked read
    cases built : response.head now with
    | error cause => simpa [phase] using carries.unbuilt phase holds read built
    | ok head =>
      rw [ensures_ask]
      intro outcome after given
      have taken := carries.head phase holds read built given
      cases outcome with
      | ok done => exact ⟨taken, by simp⟩
      | error cause => exact ⟨taken, by simp⟩

theorem writeData (carries : Carries world condition) (holds : condition response state) (bytes : Bytes) :
    (response.writeData bytes).Ensures world (fun result after => condition result.2 after) state := by
  rw [writeData_eq]
  refine ensures_goOn (carries.sendHeaders holds) (fun cause sent after came => came.1) ?_
  rintro sent after ⟨holds, committed⟩ outcome later given
  have phase := committed.1 rfl
  have taken := carries.data phase holds given
  cases outcome with
  | ok done =>
    have same : { sent with phase := .committed } = sent := by rw [← phase]
    exact same ▸ taken
  | error cause => exact taken

theorem setComplete (carries : Carries world condition) (holds : condition response state) (cause : Option Fault) :
    (response.setComplete cause).Ensures world condition state := by
  unfold Outbound.setComplete
  cases phase : response.phase with
  | complete => exact holds
  | initial | committed =>
    have going : response.phase ≠ .complete := by simp [phase]
    intro isOpen asked given
    cases isOpen with
    -- a writer that is no longer open is left as it is
    | false => exact carries.shut going holds given
    | true =>
      replace holds := carries.isOpen going holds given
      cases cause with
      | some fault => exact fun outcome after given => carries.closeWith going holds given
      | none =>
        refine (carries.sendHeaders holds).bind ?_
        rintro ⟨outcome, sent⟩ after ⟨holds, committed⟩
        cases outcome with
        | ok done => exact fun outcome later given => carries.close (committed.1 rfl) holds given
        | error fault =>
          cases phase : sent.phase with
          | initial =>
            simp only [phase]
            exact fun outcome later given => carries.closeWith (by simp [phase]) holds given
          -- the head went out and was refused: nothing may follow
          | complete =>
            have same : { sent with phase := .complete } = sent := by rw [← phase]
            simpa [phase, same] using holds
          | committed => simp [phase] at committed

theorem forwardChunks (carries : Carries world condition) (holds : condition response state) (body : Chunks) :
    (response.forwardChunks body).Ensures world (fun result after => condition result.2 after) state := by
  induction body generalizing response state with
  | nil => exact holds
  | cons chunk rest ih =>
    cases chunk with
    | ok bytes =>
      exact ensures_goOn (carries.writeData holds bytes) (fun cause written after holds => holds)
        fun written after holds => ih holds
    | error cause => exact (carries.setComplete holds _).bind fun completed after holds => holds

theorem forward (carries : Carries world condition) (holds : condition response state) (body : Chunks) :
    (response.forward body).Ensures world (fun result after => condition result.2 after) state := by
  by_cases complete : response.phase = .complete
  · unfold Outbound.forward
    rw [complete]
    exact holds
  · rw [forward_going complete]
    exact carries.forwardChunks holds body

theorem forwardAll (carries : Carries world condition) (holds : condition response state) (bodies : List Chunks) :
    (response.forwardAll bodies).Ensures world (fun result after => condition result.2 after) state := by
  induction bodies generalizing response state with
  | nil => exact holds
  | cons body rest ih =>
    exact ensures_goOn (carries.forward holds body) (fun cause forwarded after holds => holds)
      fun forwarded after holds => ih holds

theorem finishAfter (carries : Carries world condition) {first : Writing (Except Fault Unit × Outbound)}
    (ensured : first.Ensures world (fun result after => condition result.2 after) state) :
    (first.bind finishAfter).Ensures world (fun result after => condition result.2 after) state := by
  rw [finishAfter_eq]
  refine ensures_goOn ensured (fun cause response after holds => holds) fun response after holds => ?_
  exact (carries.setComplete holds none).bind fun completed after holds => holds

/-- What the steps keep, every operation keeps from the response with which it goes to the writer. -/
theorem perform (carries : Carries world condition) (question : Handler.Ask) (response : Outbound) (state : σ)
    (holds : condition (entered question response) state) :
    (Handler.perform question response).Ensures world (fun result after => condition result.2 after) state := by
  -- an operation that changes nothing by itself goes to the writer with the response as it is
  have same (plain : amend question response = response) : condition response state := by
    rwa [entered, plain, ite_self] at holds
  cases question with
  | look => exact same rfl
  | setStatus status =>
    rw [Handler.perform, ensures_done, setStatus_entered]
    exact holds
  | editHeaders edit =>
    rw [Handler.perform, ensures_done, editHeaders_entered]
    exact holds
  | addCookie cookie =>
    rw [Handler.perform, ensures_done, addCookie_entered]
    exact holds
  | sendHeaders => exact (carries.sendHeaders (same rfl)).mono fun result after kept => kept.1
  | writeWith body => exact carries.finishAfter (carries.forward (same rfl) body)
  | writeAndFlushWith bodies => exact carries.finishAfter (carries.forwardAll (same rfl) bodies)
  | setComplete cause => exact (carries.setComplete (same rfl) cause).bind fun completed after holds => holds
  | note line => exact fun answer after given => carries.note (same rfl) given

end Carries

/-- Every question that a response may ask in a phase keeps a condition on the phase and the state of the world. -/
structure Keeps (world : World Writer.interface σ) (condition : Phase → σ → Prop) : Prop where
  now : ∀ {state answer after}, condition .initial state → world .now state answer after → condition .initial after
  head : ∀ {head state outcome after}, condition .initial state →
    world (.call (.head head)) state outcome after → condition (phaseAfter .committed outcome) after
  data : ∀ {bytes state outcome after}, condition .committed state →
    world (.call (.data bytes)) state outcome after → condition (phaseAfter .committed outcome) after
  isOpen : ∀ {phase state after}, phase ≠ .complete → condition phase state →
    world .isOpen state true after → condition phase after
  shut : ∀ {phase state after}, phase ≠ .complete → condition phase state →
    world .isOpen state false after → condition .complete after
  close : ∀ {state outcome after}, condition .committed state →
    world (.call .close) state outcome after → condition .complete after
  closeWith : ∀ {phase cause state outcome after}, phase ≠ .complete → condition phase state →
    world (.call (.closeWith cause)) state outcome after → condition .complete after
  note : ∀ {phase line state answer after}, condition phase state →
    world (.note line) state answer after → condition phase after

namespace Keeps

variable {condition : Phase → σ → Prop}

theorem carries (keeps : Keeps world condition) :
    Carries world fun response state => condition response.phase state where
  unbuilt phase holds read _ := by
    rw [phase] at holds ⊢
    exact keeps.now holds read
  head phase holds read _ given := keeps.head (keeps.now (phase ▸ holds) read) given
  data phase holds given := keeps.data (phase ▸ holds) given
  isOpen going holds given := keeps.isOpen going holds given
  shut going holds given := keeps.shut going holds given
  close phase holds given := keeps.close (phase ▸ holds) given
  closeWith going holds given := keeps.closeWith going holds given
  note holds given := keeps.note holds given

/-- What the steps keep, every operation keeps. -/
theorem perform (keeps : Keeps world condition) (question : Handler.Ask) (response : Outbound) (state : σ)
    (holds : condition response.phase state) :
    (Handler.perform question response).Ensures world (fun result after => condition result.2.phase after) state :=
  keeps.carries.perform question response state (by rwa [entered_phase])

end Keeps

end Outbound

end Sluice
