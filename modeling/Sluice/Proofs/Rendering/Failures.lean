import Sluice.Proofs.Rendering.Passthrough
import Sluice.Proofs.Rendering.Subscription

/-! The two ways in which a service fails: it returns the failure, or it returns an observable that ends in one. The
first is answered by the handler of failures of the responder, the second by the one that its converters were made
with. They are the same until another handler is set. -/

set_option autoImplicit false

namespace Sluice

namespace Responder

/-- A responder for a service, with another handler of failures if one is given. -/
def assembled (service : Service) (faults? : Option FaultHandler) : Responder :=
  match faults? with
  | none => ofService service
  | some faults => (ofService service).withFaults faults

variable {service : Service} {request : Inbound} {cause : Fault}

theorem assembled_service (service : Service) (faults? : Option FaultHandler) :
    (assembled service faults?).service = service := by
  cases faults? <;> rfl

theorem assembled_faults (service : Service) (faults? : Option FaultHandler) :
    (assembled service faults?).faults = faults?.getD .standard := by
  cases faults? <;> rfl

theorem assembled_converters (service : Service) (faults? : Option FaultHandler) :
    (assembled service faults?).converters = Converters.standard .standard := by
  cases faults? <;> rfl

/-- A failure that is returned goes to the handler of the responder, whatever the converters. -/
theorem reply_failure {responder : Responder} (returned : responder.service request = .error cause) :
    responder.reply request = responder.faults.reply request.context cause := by
  rw [reply, returned]
  rfl

/-- The standard converters accept an observable, and answer its failures by the handler that they were made with. -/
theorem standard_convert_observable (context : Context) (faults : FaultHandler) (stream : List (Except Fault Value)) :
    (Converters.standard faults).convert context (.observable stream) =
      .ok (Converters.builtin.render context faults (Observable.resultOf (Observable.outcome stream))) := rfl

theorem reply_observable {responder : Responder} {faults : FaultHandler} {stream : List (Except Fault Value)}
    (converters : responder.converters = Converters.standard faults)
    (returned : responder.service request = .ok (.observable stream)) :
    responder.reply request =
      Converters.builtin.render request.context faults (Observable.resultOf (Observable.outcome stream)) := by
  rw [reply, returned, converters]
  exact Converters.render_of_converted _ (standard_convert_observable request.context faults stream)

/-- A failure is answered alike whether it is returned or ends an observable exactly if the handler that was set
answers it as the standard one does. Without another handler it always is. -/
theorem failure_alike_iff {service other : Service} {request : Inbound} {cause : Fault} (items : List Value)
    (faults? : Option FaultHandler) (returned : service request = .error cause)
    (emitted : other request = .ok (.observable (items.map .ok ++ [.error cause]))) :
    (assembled service faults?).reply request = (faults?.getD .standard).reply request.context cause ∧
      (assembled other faults?).reply request = FaultHandler.standard.reply request.context cause ∧
      ((assembled service faults?).reply request = (assembled other faults?).reply request ↔
        (faults?.getD .standard).reply request.context cause = FaultHandler.standard.reply request.context cause) ∧
      (assembled service none).reply request = (assembled other none).reply request := by
  have direct : ∀ faults?, (assembled service faults?).reply request =
      (faults?.getD .standard).reply request.context cause := by
    intro faults?
    rw [reply_failure ((congrFun (assembled_service service faults?) request).trans returned), assembled_faults]
  have observed : ∀ faults?, (assembled other faults?).reply request =
      FaultHandler.standard.reply request.context cause := by
    intro faults?
    have service := (congrFun (assembled_service other faults?) request).trans emitted
    rw [reply_observable (assembled_converters other faults?) service, Observable.outcome_failure]
    rfl
  refine ⟨direct faults?, observed faults?, ?_, ?_⟩
  · rw [direct, observed]
  · rw [direct, observed]
    rfl

def returning : Service := fun _ => .error (.notImplemented "later")

def emitting : Service := fun _ => .ok (.observable [.ok (.text "a"), .error (.notImplemented "later")])

theorem returning_emitting_alike :
    returning plainRequest = .error (.notImplemented "later") ∧
      emitting plainRequest = .ok (.observable ([Value.text "a"].map .ok ++ [.error (.notImplemented "later")])) ∧
      (assembled returning none).reply plainRequest = (assembled emitting none).reply plainRequest :=
  ⟨rfl, rfl, (failure_alike_iff [.text "a"] none rfl rfl).2.2.2⟩

/-- Another handler answers what is returned, and the standard one still answers what is emitted. -/
theorem failure_not_alike :
    ¬ ∀ (service other : Service) (faults? : Option FaultHandler) (request : Inbound) (cause : Fault)
      (items : List Value), service request = .error cause →
      other request = .ok (.observable (items.map .ok ++ [.error cause])) →
      (assembled service faults?).reply request = (assembled other faults?).reply request := by
  intro alike
  let teapot : FaultHandler := .uniform "Custom" ⟨418, by decide⟩
  have same := alike returning emitting (some teapot) plainRequest (.notImplemented "later") [.text "a"] rfl rfl
  have code : 418 = 501 := congrArg (·.status.code) same
  contradiction

end Responder

end Sluice
