import Sluice.Proofs.Exchange.Steady
import Sluice.Proofs.Headers.Translation
import Sluice.Rendering.Service

/-! A response that a service returns. It goes out with its status, its body and the names of its headers as they are.
Its header values are read as text on the way, so one that is text stays as it is and one that is not does not. -/

set_option autoImplicit false

namespace Sluice

namespace Body

def data (body : Body) : List Bytes :=
  body.filterMap fun
    | .data bytes => some bytes
    | _ => none

def Faultless (body : Body) : Prop := ∀ frame ∈ body, ∀ cause, frame ≠ .fault cause

theorem chunks_faultless {body : Body} (faultless : body.Faultless) : body.chunks = body.data.map .ok := by
  induction body with
  | nil => rfl
  | cons frame rest ih =>
    have others : Faultless rest := fun other member => faultless other (by simp [member])
    cases frame with
    | data bytes => simpa [chunks, data] using ih others
    | trailers fields => simpa [chunks, data] using ih others
    | fault cause => exact absurd rfl (faultless (.fault cause) (by simp) cause)

end Body

namespace Chunks

theorem data_ok (chunks : List Bytes) : data (chunks.map .ok) = chunks := by
  induction chunks with
  | nil => rfl
  | cons bytes rest ih => rw [List.map_cons, data, ih]

theorem failure?_ok (chunks : List Bytes) : failure? (chunks.map .ok) = none := by
  induction chunks with
  | nil => rfl
  | cons bytes rest ih => rw [List.map_cons, failure?, ih]

end Chunks

namespace HeaderMap

theorem map_eq_self_iff {α : Type} {f : α → α} {items : List α} :
    items.map f = items ↔ ∀ item ∈ items, f item = item := by
  conv_lhs => rhs; rw [← List.map_id items]
  exact List.map_inj_left

def IsText (map : HeaderMap) : Prop :=
  ∀ entry ∈ map.entries, ∀ value ∈ entry.2, value.bytes.toByteArray.IsValidUTF8

theorem lossy_eq_iff {map : HeaderMap} : map.lossy = map ↔ map.IsText := by
  rw [HeaderMap.ext_iff, lossy, map_eq_self_iff]
  refine forall₂_congr fun entry _ => ?_
  rw [Prod.ext_iff]
  simp only [true_and, map_eq_self_iff, HeaderValue.lossy_eq_iff]

end HeaderMap

namespace Responder

open Program Writer

/-- The first converter that is offered a response accepts it as it is. -/
theorem reply_ofService {service : Service} {request : Inbound} {reply : Reply Body}
    (returned : service request = .ok (.reply reply)) : (ofService service).reply request = reply := by
  unfold Responder.reply
  rw [ofService]
  simp only [returned]
  rfl

theorem addHeaders_empty (headers : Headers) : addHeaders .empty headers = headers :=
  Headers.ext (Headers.addEntries_entries headers.filled headers.distinct)

def prepared (reply : Reply Body) : Outbound :=
  { Outbound.fresh with status := some reply.status, headers := addHeaders .empty (.ofHeaderMap reply.headers) }

theorem write_onResponse (reply : Reply Body) :
    Script.onResponse (write reply) .fresh = (prepared reply).writeWith reply.body.chunks := bind_done _

theorem prepared_head (reply : Reply Body) (now : Instant) :
    (prepared reply).head now = .ok ⟨reply.status, reply.headers.lossy⟩ := by
  have built := Headers.toHeaderMap_ofHeaderMap reply.headers
  simp only [Outbound.head, prepared, addHeaders_empty, built]
  rfl

theorem prepared_writable (reply : Reply Body) : (prepared reply).Writable := by
  refine ⟨nofun, fun _ => ?_⟩
  by_contra unencodable
  obtain ⟨cause, -, fails⟩ := Outbound.head_error unencodable
  cases (prepared_head reply 0).symm.trans (fails 0)

variable {service : Service} {request : Inbound} {reply : Reply Body}

def passage (reply : Reply Body) : List Call :=
  .head ⟨reply.status, reply.headers.lossy⟩ :: reply.body.data.map .data ++ [.close]

theorem write_steady (faultless : reply.body.Faultless) :
    (Script.onResponse (write reply) .fresh).Ensures steady (fun result calls =>
      calls = passage reply ∧ result = (.ok (), { prepared reply with phase := .complete })) [] := by
  rw [write_onResponse, Body.chunks_faultless faultless]
  refine (Outbound.writeWith_steady (prepared_writable reply) _).mono ?_
  rintro result calls ⟨⟨opening, due, rfl⟩, rfl⟩
  -- nothing fails, so the head is due, and it is the one that the reply prepares
  have introduces : (prepared reply).Introduces opening := by
    simpa [Outbound.Due, Chunks.needsHead, Chunks.failure?_ok] using due
  obtain ⟨now, head, built, rfl⟩ : ∃ now head, (prepared reply).head now = .ok head ∧ opening = [.head head] :=
    introduces
  rw [prepared_head] at built
  cases built
  rw [Chunks.data_ok, Chunks.ending, Chunks.outcome, Chunks.failure?_ok]
  exact ⟨rfl, rfl⟩

theorem handler_steady (returned : service request = .ok (.reply reply)) (faultless : reply.body.Faultless) :
    (Script.onResponse ((ofService service).handler request) .fresh).Ensures steady (fun result calls =>
      calls = passage reply ∧ result = (.ok (), { prepared reply with phase := .complete })) [] := by
  rw [handler, reply_ofService returned]
  exact write_steady faultless

/-- A reply that a service returns is passed on: the handler comes to its end, and it has made the calls that the reply
asks for. The headers are the same exactly if all their values are text. -/
theorem passes_on (service : Service) (request : Inbound) (reply : Reply Body)
    (returned : service request = .ok (.reply reply)) (faultless : reply.body.Faultless) :
    let written := Script.onResponse ((ofService service).handler request) .fresh
    (∃ trace result calls, written.Reaches trace (.done result) ∧ steady.Gives [] trace calls) ∧
      (∀ trace result calls, written.Reaches trace (.done result) → steady.Gives [] trace calls →
        calls = .head ⟨reply.status, reply.headers.lossy⟩ :: reply.body.data.map .data ++ [.close] ∧
          result.1 = .ok () ∧ result.2.phase = .complete) ∧
      reply.headers.lossy.entries =
        reply.headers.entries.map (fun entry => (entry.1, entry.2.map HeaderValue.lossy)) ∧
      (reply.headers.lossy = reply.headers ↔ reply.headers.IsText) := by
  intro written
  refine ⟨reaches_end steady_answers _ _, ?_, rfl, HeaderMap.lossy_eq_iff⟩
  intro trace result calls run gives
  obtain ⟨made, rfl⟩ := (handler_steady returned faultless).of_gives run gives
  exact ⟨made, rfl, rfl⟩

def plainRequest : Inbound := ⟨.ofId "r", "GET", ⟨none, none, "/", none⟩, "HTTP/1.1", "/", .empty, []⟩

/-- A reply with two values of one header, and a body with trailers. -/
def ready : Reply Body :=
  ⟨.notImplemented, (HeaderMap.empty.append .setCookie ⟨[0x61], by decide⟩).append .setCookie ⟨[0xC3, 0xA9], by decide⟩,
    [.data [0x62], .trailers .empty]⟩

theorem ready_passes_on :
    ready.body.Faultless ∧ ready.headers.IsText ∧
      ∃ trace result, (Script.onResponse ((ofService fun _ => .ok (.reply ready)).handler plainRequest) .fresh).Reaches
        trace (.done result) ∧
        steady.Gives [] trace [.head ⟨.notImplemented, ready.headers⟩, .data [0x62], .close] := by
  have faultless : ready.body.Faultless := by simp [Body.Faultless, ready]
  obtain ⟨⟨trace, result, calls, run, gives⟩, passed, -, same⟩ :=
    passes_on (fun _ => .ok (.reply ready)) plainRequest ready rfl faultless
  have text : ready.headers.lossy = ready.headers := by decide
  obtain ⟨rfl, -, -⟩ := passed trace result calls run gives
  rw [text] at gives
  exact ⟨faultless, same.1 text, trace, result, run, gives⟩

/-- One value that is no text. -/
def latin : Reply Body := ⟨.ok, HeaderMap.empty.append .setCookie ⟨[0xFF], by decide⟩, [.data [0x61]]⟩

/-- A value that is no text is replaced. -/
theorem latin_not_passed_on :
    latin.body.Faultless ∧
      ∃ trace result calls, (Script.onResponse ((ofService fun _ => .ok (.reply latin)).handler plainRequest)
        .fresh).Reaches trace (.done result) ∧
        steady.Gives [] trace calls ∧ ∀ head, .head head ∈ calls → head.headers ≠ latin.headers := by
  have faultless : latin.body.Faultless := by simp [Body.Faultless, latin]
  obtain ⟨trace, result, calls, run, gives⟩ := reaches_end steady_answers
    (Script.onResponse ((ofService fun _ => .ok (.reply latin)).handler plainRequest) .fresh) []
  obtain ⟨rfl, -⟩ := (handler_steady rfl faultless).of_gives run gives
  refine ⟨faultless, trace, result, _, run, gives, ?_⟩
  intro head sent
  obtain rfl : head = ⟨.ok, latin.headers.lossy⟩ := by simpa [passage, latin, Body.data] using sent
  decide

end Responder

end Sluice
