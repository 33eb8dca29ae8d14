import Sluice.Proofs.Exchange.Fickle
import Sluice.Proofs.Rendering.Exclusion
import Sluice.Proofs.Rendering.Failures
import Sluice.Proofs.Rendering.Flattening
import Sluice.Proofs.Rendering.Settlement

/-! What a client learns of a failure in the server. A service fails by returning the failure, by emitting it after any
items, or with a value or item that no converter accepts. On each of these ways the handler of failures makes the whole
response, and of a failure in the server it keeps the status alone. So two failures with one status cannot be told
apart, whatever lies behind them. -/

set_option autoImplicit false

namespace Sluice

namespace Status

/-- The reason phrase, with a word for a status that has none. -/
def phrase (status : Status) : String := status.reason?.getD "Error"

theorem phrase_ne_empty (status : Status) : status.phrase ≠ "" := by
  have worded : ∀ entry ∈ reasons, entry.2 ≠ "" := by decide
  rw [phrase, reason?]
  cases found : reasons.find? (·.1 == status.code) with
  | none => decide
  | some entry => exact worded entry (List.mem_of_find?_eq_some found)

end Status

theorem Body.ofText_of_ne_empty {text : String} (nonempty : text ≠ "") :
    Body.ofText text = [.data (Bytes.ofText text)] := by
  obtain ⟨c, rest, characters⟩ := List.exists_cons_of_ne_nil (mt String.toList_eq_nil_iff.1 nonempty)
  have encoded : Bytes.ofText text = Utf8.encodeChar c ++ Utf8.encode rest := by
    rw [Bytes.ofText, characters, Utf8.encode, List.flatMap_cons]
    rfl
  simp [Body.ofText, Body.full, encoded, Utf8.encodeChar_ne_nil]

namespace Converters

open Converter

variable {context : Context} {value handed item : Value} {items : List Value} {converters : Converters}

/-- No converter accepts the value. -/
def Refuses (context : Context) (converters : Converters) (value : Value) : Prop :=
  ∀ converter ∈ converters, ¬ converter.Accepts context value

theorem offer_of_refuses (refuses : Refuses context converters value)
    (each : ∀ converter ∈ converters, converter.Accepts context value ∨ converter.HandsBack context value) :
    offer context converters value = .ok (.fallthrough value) :=
  offer_of_handsBack fun converter member => (each converter member).resolve_left (refuses converter member)

theorem convert_of_fallthrough (back : offer context converters value = .ok (.fallthrough handed)) :
    converters.convert context value = .error (unhandled context converters) := by
  simp [convert, promise, back]

theorem observable_or_handsBack (faults : FaultHandler) (context : Context) (value : Value) :
    (∃ stream, value = .observable stream) ∨ (Converter.observable builtin faults).HandsBack context value := by
  cases value with
  | observable stream => exact .inl ⟨stream, rfl⟩
  | _ => exact .inr rfl

theorem convert_builtin_refused (refuses : builtin.Refuses context value) :
    builtin.convert context value = .error (unhandled context builtin) :=
  convert_of_fallthrough (offer_of_refuses refuses (builtin_each context value))

theorem convert_standard_refused {faults : FaultHandler}
    (refuses : Refuses context (.observable builtin faults :: builtin) value) :
    (standard faults).convert context value = .error (unhandled context (standard faults)) := by
  have first : (Converter.observable builtin faults).Accepts context value ∨
      (Converter.observable builtin faults).HandsBack context value := by
    apply (observable_or_handsBack faults context value).imp_left
    rintro ⟨stream, rfl⟩
    exact ⟨_, rfl⟩
  have back := offer_of_refuses refuses (List.forall_mem_cons.2 ⟨first, builtin_each context value⟩)
  rw [← offer_standard] at back
  exact convert_of_fallthrough back

theorem refuses_builtin_iff : builtin.Refuses context value ↔ ¬ Plain value := by
  have accepted : (∃ converter ∈ builtin, converter.Accepts context value) ↔ Plain value := plain_iff
  rw [← accepted]
  simp [Refuses]

/-- An item that no converter accepts spoils whatever it is collected into. -/
theorem refuses_of_item (collects : Signal.Collects items value) (member : item ∈ items)
    (refuses : builtin.Refuses context item) : builtin.Refuses context value := by
  rw [refuses_builtin_iff] at refuses ⊢
  cases collects with
  | nothing => cases member
  | single only =>
    obtain rfl := List.mem_singleton.1 member
    exact refuses
  | several first second others =>
    intro plain
    cases plain with
    | list formed =>
      -- each item of a list that is accepted has a form, and what has a form is accepted by itself
      have passes := List.all_eq_true.1 (forall₂_forms_iff.1 formed).1 item member
      cases forms_iff.2 ⟨passes, rfl⟩ with
      | json value => exact refuses (.json value)
      | text s => exact refuses (.text s)
      | literal s => exact refuses (.literal s)

end Converters

namespace Responder

open Program Writer Converters

variable {service other : Service} {request another : Inbound} {cause reason : Fault}

/-- What a service comes to is a failure, for this cause. -/
inductive Fails (context : Context) : Except Fault Value → Fault → Prop where
  | returned (cause : Fault) : Fails context (.error cause) cause
  | emitted (items : List Value) (cause : Fault) (rest : List (Except Fault Value)) :
      Fails context (.ok (.observable (items.map .ok ++ .error cause :: rest))) cause
  | refused {value : Value} : Refuses context (.observable builtin .standard :: builtin) value →
      Fails context (.ok value) (unhandled context (Converters.standard .standard))
  | spoiled {items : List Value} {value : Value} : Signal.Collects items value → builtin.Refuses context value →
      Fails context (.ok (.observable (items.map .ok))) (unhandled context builtin)

/-- An item that no converter accepts is enough, wherever it stands. -/
theorem Fails.of_item {context : Context} {items : List Value} {item : Value} (member : item ∈ items)
    (refuses : builtin.Refuses context item) :
    Fails context (.ok (.observable (items.map .ok))) (unhandled context builtin) :=
  .spoiled (Signal.collects_iff.2 rfl) (refuses_of_item (Signal.collects_iff.2 rfl) member refuses)

/-- A service that does not fail comes to a value that a converter accepts, or to items that make one up. -/
theorem fails_or_accepted (context : Context) (result : Except Fault Value) :
    (∃ cause, Fails context result cause) ∨
      ∃ value, ¬ builtin.Refuses context value ∧
        (result = .ok value ∨ ∃ items, Signal.Collects items value ∧ result = .ok (.observable (items.map .ok))) := by
  cases result with
  | error cause => exact .inl ⟨cause, .returned cause⟩
  | ok value =>
    rcases observable_or_handsBack .standard context value with ⟨stream, rfl⟩ | back
    · rcases Observable.items_or_failure stream with ⟨items, rfl⟩ | ⟨items, cause, rest, rfl⟩
      · have collects : Signal.Collects items (Subscriber.valueOf items) := Signal.collects_iff.2 rfl
        by_cases refuses : builtin.Refuses context (Subscriber.valueOf items)
        · exact .inl ⟨_, .spoiled collects refuses⟩
        · exact .inr ⟨_, refuses, .inr ⟨items, collects, rfl⟩⟩
      · exact .inl ⟨cause, .emitted items cause rest⟩
    · by_cases refuses : builtin.Refuses context value
      · exact .inl ⟨_, .refused (List.forall_mem_cons.2 ⟨back.not_accepts, refuses⟩)⟩
      · exact .inr ⟨value, refuses, .inl rfl⟩

/-- The handler of failures makes the whole response to a failure, in whatever way it comes. -/
theorem reply_of_fails (fails : Fails request.context (service request) cause) :
    (ofService service).reply request = FaultHandler.standard.reply request.context cause := by
  generalize returned : service request = result at fails
  cases fails with
  | returned => exact reply_failure returned
  | emitted items _ rest =>
    rw [reply_observable rfl returned, Observable.outcome_failure]
    rfl
  | refused refuses =>
    have rendered := render_of_unconverted FaultHandler.standard (convert_standard_refused refuses)
    rw [← returned] at rendered
    exact rendered
  | spoiled collects refuses =>
    rw [reply_observable rfl returned, Observable.outcome_items, ← Signal.collects_iff.1 collects]
    exact render_of_unconverted _ (convert_builtin_refused refuses)

/-- Of a failure in the server the response has the status and its phrase. -/
theorem standard_reply_server (context : Context) (server : cause.statusCode.isServerError = true) :
    FaultHandler.standard.reply context cause = Reply.ofText cause.statusCode cause.statusCode.phrase := by
  simp [FaultHandler.standard, FaultHandler.publicText, server, Status.phrase]

/-- All that goes out for a failure in the server. -/
def disclosed (status : Status) : List Call :=
  [.head ⟨status, Reply.typedHeaders Reply.plainText⟩, .data (Bytes.ofText status.phrase), .close]

theorem ofText_faultless (status : Status) : (Reply.ofText status status.phrase).body.Faultless := by
  simp [Reply.ofText, Body.ofText_of_ne_empty status.phrase_ne_empty, Body.Faultless]

theorem passage_ofText (status : Status) : passage (Reply.ofText status status.phrase) = disclosed status := by
  have lossless : (Reply.typedHeaders Reply.plainText).lossy = Reply.typedHeaders Reply.plainText := by decide
  simp [passage, disclosed, Reply.ofText, lossless, Body.ofText_of_ne_empty status.phrase_ne_empty, Body.data]

/-- A writer that answers as it likes gets a beginning of what one that takes every call gets. -/
theorem write_begins {reply : Reply Body} (faultless : reply.body.Faultless) :
    (Script.onResponse (write reply) .fresh).Ensures fickle (fun _ calls => calls <+: passage reply) [] := by
  rw [write_onResponse, Body.chunks_faultless faultless]
  exact (Outbound.writeWith_fickle (.due rfl (prepared_head reply)) reply.body.data).mono fun _ _ begun => begun

/-- The status is the first thing that a handler sets, so handlers that do the same set the same status. -/
theorem status_of_write {first second : Reply Body} (same : write first = write second) :
    first.status = second.status := by
  have asked := (Program.ask.inj same).1
  exact Handler.Ask.setStatus.inj asked

/-- Two failures, of which one is in the server, are handled by the same program exactly if they have the same status,
so no response and no writer can tell them apart. What goes out is made of that status alone: a writer that takes every
call gets all of it, and any writer a beginning, wherever the handler is stopped. -/
theorem discloses_status_alone (fails : Fails request.context (service request) cause)
    (failed : Fails another.context (other another) reason) (server : cause.statusCode.isServerError = true) :
    ((ofService service).handler request = (ofService other).handler another ↔
      cause.statusCode = reason.statusCode) ∧
    let written := Script.onResponse ((ofService service).handler request) .fresh
    (∀ trace rest, written.Reaches trace rest → called trace <+: disclosed cause.statusCode) ∧
      (∃ trace result calls, written.Reaches trace (.done result) ∧ steady.Gives [] trace calls) ∧
      ∀ trace result calls, written.Reaches trace (.done result) → steady.Gives [] trace calls →
        calls = disclosed cause.statusCode ∧ result.1 = .ok () ∧ result.2.phase = .complete := by
  have handled : (ofService service).handler request =
      write (Reply.ofText cause.statusCode cause.statusCode.phrase) := by
    rw [handler, reply_of_fails fails, standard_reply_server _ server]
  have faultless := ofText_faultless cause.statusCode
  refine ⟨⟨fun same => ?_, fun same => ?_⟩, ?_⟩
  · rw [handled, handler, reply_of_fails failed] at same
    exact status_of_write same
  · rw [handled, handler, reply_of_fails failed, standard_reply_server _ (same ▸ server), same]
  · rw [handled, ← passage_ofText]
    refine ⟨fun trace rest run => called_of_ensures (write_begins faultless) run, reaches_end steady_answers _ _, ?_⟩
    intro trace result calls run gives
    obtain ⟨made, rfl⟩ := (write_steady faultless).of_gives run gives
    exact ⟨made, rfl, rfl⟩

def leaking : Service := fun _ => .error (.config "no key at /srv/key.pem")

/-- The number in the middle has no form. -/
def spoiling : Service := fun _ => .ok (.observable [.ok (.text "a"), .ok (.natural 7), .ok (.text "b")])

def breaking : Service := fun _ => .ok (.observable [.ok (.natural 7), .error (.runtime "upstream"), .ok .unit])

def boxing : Service := fun _ => .ok (.boxed (.text "a"))

def elsewhere : Inbound := { plainRequest with context := .ofId "s" }

theorem leaking_spoiling_disclosed :
    Fails plainRequest.context (leaking plainRequest) (.config "no key at /srv/key.pem") ∧
      Fails elsewhere.context (spoiling elsewhere) (unhandled elsewhere.context builtin) ∧
      (ofService leaking).handler plainRequest = (ofService spoiling).handler elsewhere ∧
      (ofService breaking).handler plainRequest = (ofService boxing).handler elsewhere ∧
      ∃ trace result, (Script.onResponse ((ofService leaking).handler plainRequest) .fresh).Reaches trace
        (.done result) ∧ steady.Gives [] trace
          [.head ⟨.internalServerError, Reply.typedHeaders Reply.plainText⟩,
            .data (Bytes.ofText "Internal Server Error"), .close] := by
  have leaks : Fails plainRequest.context (leaking plainRequest) (.config "no key at /srv/key.pem") := .returned _
  have member : Value.natural 7 ∈ [Value.text "a", .natural 7, .text "b"] := by simp
  have spoils : Fails elsewhere.context (spoiling elsewhere) (unhandled elsewhere.context builtin) :=
    .of_item member (refuses_builtin_iff.2 nofun)
  have breaks : Fails plainRequest.context (breaking plainRequest) (.runtime "upstream") :=
    .emitted [.natural 7] _ [.ok .unit]
  have boxes : Fails elsewhere.context (boxing elsewhere)
      (unhandled elsewhere.context (Converters.standard .standard)) :=
    .refused (List.forall_mem_cons.2 ⟨Converter.HandsBack.not_accepts rfl, refuses_builtin_iff.2 nofun⟩)
  obtain ⟨alike, -, ⟨trace, result, calls, run, gives⟩, made⟩ := discloses_status_alone leaks spoils rfl
  obtain ⟨rfl, -, -⟩ := made trace result calls run gives
  exact ⟨leaks, spoils, alike.2 rfl, (discloses_status_alone breaks boxes rfl).1.2 rfl, trace, result, run, gives⟩

end Responder

end Sluice
