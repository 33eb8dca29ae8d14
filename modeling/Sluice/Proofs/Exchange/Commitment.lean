import Sluice.Proofs.Exchange.Head
import Sluice.Proofs.Exchange.History

/-! What is settled when the writer takes a head. The fields that gave it cannot change any more, so they go on giving it
at the time of the commit. Before that, a head that cannot be built is refused as often as it is sent, and the writer
hears nothing of it. -/

set_option autoImplicit false

namespace Sluice

namespace Outbound

open Program Writer
open Relation (ReflTransGen)

variable {response entered left last : Outbound} {question : Handler.Ask} {answer : Handler.Answer question}
  {operations : List (Exchange Handler.interface)} {trace more : List (Exchange Writer.interface)}

/-- The time plays no part in whether a head can be built. -/
theorem head_fails_always {now : Instant} {cause : Fault} (fails : response.head now = .error cause) (later : Instant) :
    response.head later = .error cause := by
  have unencodable : ¬ response.Encodable := by
    intro encodable
    obtain ⟨head, built⟩ := head_ok encodable now
    rw [built] at fails
    cases fails
  obtain ⟨same, -, always⟩ := head_error unencodable
  rw [always now] at fails
  rw [always later, fails]

theorem sendHeaders_taken {now : Instant} {head : Head} (initial : response.phase = .initial)
    (built : response.head now = .ok head) :
    response.sendHeaders.Reaches [⟨.now, now⟩, ⟨.call (.head head), .ok ()⟩]
      (.done (.ok (), { response with phase := .committed })) := by
  simp only [sendHeaders, initial]
  refine .step ?_
  rw [built]
  exact .step .here

/-- The operation in which the writer takes a head leaves a response that still gives it. -/
theorem commits_of_taken {head : Head} (step : (Handler.perform question entered).Reaches trace (.done (answer, left)))
    (taken : ⟨.call (.head head), .ok ()⟩ ∈ trace) :
    left.phase ≠ .initial ∧ left = { entered with phase := left.phase } ∧
      ∃ now, Commits trace now head ∧ left.head now = .ok head := by
  have goes := perform_goes step
  obtain ⟨later, now, commits, built⟩ := goes.accepted head taken
  refine ⟨later, ?_, now, commits, (goes.head_eq now).trans built⟩
  rw [← entered_eq_of_asked step (List.ne_nil_of_mem taken)]
  exact goes.fields

/-- A send of the head that fails this way asks for the time, and that is all. -/
theorem perform_sendHeaders_fails {cause : Fault} (initial : response.phase = .initial)
    (fails : ∀ now, response.head now = .error cause) {outcome : Except Fault Unit}
    (step : (Handler.perform .sendHeaders response).Reaches trace (.done (outcome, left))) :
    outcome = .error cause ∧ left = response ∧ ∀ exchange ∈ trace, exchange.question = .now := by
  rw [Handler.perform, sendHeaders_unsendable initial fails] at step
  cases step with
  | step run =>
    cases run
    exact ⟨rfl, rfl, by simp⟩

theorem Undergoes.resends {cause : Fault} (run : Undergoes response operations trace last)
    (initial : response.phase = .initial) (fails : ∀ now, response.head now = .error cause)
    (resends : ∀ operation ∈ operations, operation.question = .sendHeaders) :
    last = response ∧ (∀ exchange ∈ trace, exchange.question = .now) ∧
      ∀ operation ∈ operations, operation = ⟨.sendHeaders, .error cause⟩ := by
  induction run with
  | rest => exact ⟨rfl, List.forall_mem_nil _, List.forall_mem_nil _⟩
  | perform step _ ih =>
    obtain rfl := resends _ List.mem_cons_self
    obtain ⟨rfl, rfl, clock⟩ := perform_sendHeaders_fails initial fails step
    obtain ⟨same, later, refused⟩ := ih initial fails fun operation member => resends operation (.tail _ member)
    exact ⟨same, List.forall_mem_append.2 ⟨clock, later⟩, List.forall_mem_cons.2 ⟨rfl, refused⟩⟩

/-- Once the writer has taken a head, the fields stay what they were and give that head; the phase only goes forward; and
a send of a head that cannot be built does nothing, however often it is repeated. -/
theorem committed_head_stays :
    (∀ {entered left last : Outbound} {question : Handler.Ask} {answer : Handler.Answer question}
        {operations : List (Exchange Handler.interface)} {trace more : List (Exchange Writer.interface)} {head : Head},
      (Handler.perform question entered).Reaches trace (.done (answer, left)) →
      ⟨.call (.head head), .ok ()⟩ ∈ trace → Undergoes left operations more last →
      (last.status = entered.status ∧ last.headers = entered.headers ∧ last.cookies = entered.cookies) ∧
        ∃ now, Commits trace now head ∧ last.head now = .ok head) ∧
    (∀ {first last : Outbound} {operations : List (Exchange Handler.interface)}
        {trace : List (Exchange Writer.interface)},
      Undergoes first operations trace last → ReflTransGen Phase.Moves first.phase last.phase) ∧
    ∀ {response : Outbound} {now : Instant} {cause : Fault},
      response.phase = .initial → response.head now = .error cause →
      response.Fails cause response.sendHeaders ∧
        ∀ {last : Outbound} {operations : List (Exchange Handler.interface)}
            {trace : List (Exchange Writer.interface)},
          Undergoes response operations trace last →
          (∀ operation ∈ operations, operation.question = .sendHeaders) →
          last = response ∧ (∀ exchange ∈ trace, exchange.question = .now) ∧
            ∀ operation ∈ operations, operation = ⟨.sendHeaders, .error cause⟩ := by
  refine ⟨?frozen, Undergoes.moves, ?refused⟩
  case frozen =>
    intro entered left last question answer operations trace more head step taken run
    obtain ⟨later, fields, now, commits, built⟩ := commits_of_taken step taken
    have same : last = { entered with phase := last.phase } := by
      rw [run.frozen later, fields]
    refine ⟨?_, now, commits, ?_⟩
    · rw [same]
      exact ⟨rfl, rfl, rfl⟩
    · -- the phase is no part of the head
      rw [run.frozen later]
      exact built
  case refused =>
    intro response now cause initial failed
    have fails := head_fails_always failed
    exact ⟨sendHeaders_unsendable initial fails, fun run resends => run.resends initial fails resends⟩

def tagged : Outbound := { fresh with status := some .noContent, headers := Headers.empty.add "X-Tag" "a" }

/-- Tries to change the response, and ends it. -/
def edits : Script Unit := do
  let _ ← Script.setStatus .badRequest
  let _ ← Script.editHeaders fun headers => (headers.remove "X-Tag").2
  Script.setComplete none

theorem edits_leave_tagged :
    (∃ head operations,
      (Handler.perform .sendHeaders tagged).Reaches [⟨.now, (0 : Int)⟩, ⟨.call (.head head), .ok ()⟩]
        (.done (.ok (), { tagged with phase := .committed })) ∧
      Undergoes { tagged with phase := .committed } operations [⟨.isOpen, true⟩, ⟨.call .close, .ok ()⟩]
        { tagged with phase := .complete } ∧
      (∃ now, Outbound.head { tagged with phase := .complete } now = .ok head) ∧
      ReflTransGen Phase.Moves .committed .complete) ∧
    ∃ cause, spoilt.head (0 : Int) = .error cause ∧ spoilt.Fails cause spoilt.sendHeaders ∧
      Undergoes spoilt [⟨.sendHeaders, .error cause⟩, ⟨.sendHeaders, .error cause⟩] [⟨.now, (0 : Int)⟩, ⟨.now, (1 : Int)⟩]
        spoilt ∧
      ∀ operations trace last, Undergoes spoilt operations trace last →
        (∀ operation ∈ operations, operation.question = .sendHeaders) → last = spoilt := by
  constructor
  · obtain ⟨head, built⟩ : ∃ head, tagged.head (0 : Int) = .ok head := ⟨_, rfl⟩
    have step : (Handler.perform .sendHeaders tagged).Reaches _ _ := sendHeaders_taken rfl built
    have run : (edits.onResponse { tagged with phase := .committed }).Reaches
        [⟨.isOpen, true⟩, ⟨.call .close, .ok ()⟩] (.done ((), { tagged with phase := .complete })) :=
      .step (.step .here)
    obtain ⟨operations, -, undergoes⟩ := (Script.undergoes_iff edits).1 run
    obtain ⟨-, now, -, still⟩ := committed_head_stays.1 step (.tail _ (.head _)) undergoes
    exact ⟨head, operations, step, undergoes, ⟨now, still⟩, committed_head_stays.2.1 undergoes⟩
  · obtain ⟨cause, failed⟩ : ∃ cause, spoilt.head (0 : Int) = .error cause := ⟨_, rfl⟩
    obtain ⟨fails, resends⟩ := committed_head_stays.2.2 rfl failed
    have send : ∀ now, (Handler.perform .sendHeaders spoilt).Reaches [⟨.now, now⟩] (.done (.error cause, spoilt)) := by
      intro now
      rw [Handler.perform, fails]
      exact .step .here
    refine ⟨_, failed, fails, .perform (send 0) (.perform (send 1) .rest), ?_⟩
    exact fun operations trace last run all => (resends run all).1

end Outbound

end Sluice
