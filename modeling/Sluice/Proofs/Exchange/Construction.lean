import Sluice.Proofs.Exchange.History
import Sluice.Proofs.Exchange.Queue
import Sluice.Proofs.Headers.Wire

/-! What is in a head, exactly. It is what the headers yield with the texts of the cookies added to them. What stops it is
a name that is no token or too long, a value that is not legal, or a cookie that fails its check; an encoded cookie never
is what stops it. -/

set_option autoImplicit false

namespace Sluice

namespace Headers

theorem encodable_iff_sendable {headers : Headers} : headers.Encodable ↔ headers.Sendable := by
  simp only [Encodable, Sendable, Fits, HeaderName.ofText?_isSome_iff, HeaderValue.ofText?_isSome_iff]

/-- Each cookie adds a value to both. -/
theorem Yields.appendCookies {headers : Headers} {map full : HeaderMap} {now : Instant} {cookies : List SetCookie}
    (yields : headers.Yields map)
    (appended : Outbound.appendCookies now map cookies = .ok full) :
    ∃ texts, cookies.map (·.encode now) = texts.map .ok ∧ (headers.addAll "set-cookie" texts).Yields full := by
  simp only [addAll_eq_foldl]
  induction cookies generalizing headers map with
  | nil =>
    cases appended
    exact ⟨[], rfl, yields⟩
  | cons cookie rest ih =>
    obtain ⟨text, value, encodes, read, later⟩ := Outbound.appendCookies_cons appended
    have named : HeaderName.ofText? "set-cookie" = some .setCookie := HeaderName.ofText?_text .setCookie
    obtain ⟨texts, encodings, yields⟩ := ih (yields.add named read) later
    exact ⟨text :: texts, by simp [encodes, encodings], yields⟩

end Headers

theorem CookieMap.values_add_perm {α : Type} (map : CookieMap α) (name : String) (cookie : α) :
    (map.add name cookie).values.Perm (map.values ++ [cookie]) := by
  have listed := (fieldsOf_addTo_perm name cookie map.entries).map (·.2)
  rw [List.map_append, map_fieldsOf map] at listed
  exact (map_fieldsOf (map.add name cookie)) ▸ listed

/-- The cookie that an operation queues. -/
def Handler.Ask.queues? : Handler.Ask → Option SetCookie
  | .addCookie cookie => some cookie
  | _ => none

namespace Outbound

variable {response : Outbound} {now : Instant}

/-- The cookies that operations queue, one after another. -/
def queued (operations : List (Exchange Handler.interface)) : List SetCookie :=
  operations.filterMap (·.question.queues?)

theorem amend_cookies_perm (question : Handler.Ask) (response : Outbound) :
    (amend question response).cookies.values.Perm (response.cookies.values ++ question.queues?.toList) := by
  cases question with
  | addCookie cookie => exact response.cookies.values_add_perm cookie.name cookie
  | _ => exact .of_eq (List.append_nil _).symm

theorem foldl_amend_cookies_perm (operations : List (Exchange Handler.interface)) (response : Outbound) :
    (operations.foldl (fun response operation => amend operation.question response) response).cookies.values.Perm
      (response.cookies.values ++ queued operations) := by
  induction operations generalizing response with
  | nil => exact .of_eq (List.append_nil _).symm
  | cons operation rest ih =>
    have first := (amend_cookies_perm operation.question response).append_right (queued rest)
    refine (ih _).trans (first.trans (.of_eq ?_))
    rw [List.append_assoc]
    congr 1
    unfold queued
    cases queues : operation.question.queues? <;> simp [queues]

theorem encodable_iff : response.Encodable ↔
    response.headers.Sendable ∧ ∀ cookie ∈ response.cookies.values, ∃ text, cookie.encode now = .ok text := by
  have passes (cookie : SetCookie) : cookie.check = .ok () ↔ ∃ text, cookie.encode now = .ok text := by
    rw [SetCookie.check_eq_ok_iff]
    simp [SetCookie.encode_eq_ok_iff]
  constructor
  · intro encodable
    exact ⟨Headers.encodable_iff_sendable.1 encodable.headers,
      fun cookie member => (passes cookie).1 (encodable.cookies cookie member)⟩
  · rintro ⟨sendable, encodes⟩
    exact ⟨Headers.encodable_iff_sendable.2 sendable, fun cookie member => (passes cookie).2 (encodes cookie member)⟩

theorem head_built_iff : (∃ head, response.head now = .ok head) ↔ response.Encodable := by
  refine ⟨fun ⟨head, built⟩ => ?_, fun encodable => head_ok encodable now⟩
  by_contra unencodable
  obtain ⟨cause, -, fails⟩ := head_error unencodable
  rw [fails] at built
  cases built

/-- What is built is the headers with the texts of the cookies added to them. -/
theorem head_yields {head : Head} (built : response.head now = .ok head) :
    head.status = response.status.getD .ok ∧ ∃ texts, response.cookies.values.map (·.encode now) = texts.map .ok ∧
      (response.headers.addAll "set-cookie" texts).Yields head.headers := by
  obtain ⟨plain, translated, appended, status⟩ := head_parts built
  exact ⟨status, (Headers.Yields.of_toHeaderMap translated).appendCookies appended⟩

/-- If the names and set-cookie fit in a map, a head can be built exactly if every name is a token of fitting length,
every value is legal and every queued cookie can be encoded. Then it has the status that was set, or 200, and the headers
in lower case, in order; only set-cookie has after its values those of the cookies, of which there is one for each that
was queued. No encoded cookie fails to be a value. -/
theorem head_exact (response : Outbound) (now : Instant) (few : response.headers.size + 1 < HeaderMap.maxNames) :
    ((∃ head, response.head now = .ok head) ↔
      response.headers.Sendable ∧ ∀ cookie ∈ response.cookies.values, ∃ text, cookie.encode now = .ok text) ∧
    (∀ head, response.head now = .ok head → head.status = response.status.getD .ok ∧ head.headers.HasRoom ∧
      ∃ texts, response.cookies.values.map (·.encode now) = texts.map .ok ∧
        head.headers.wire = (response.headers.addAll "set-cookie" texts).wire ∧
        ∀ name, (head.headers.getAll name).map HeaderValue.bytes =
          (response.headers.getAll name.text ++ if name = .setCookie then texts else []).map Bytes.ofText) ∧
    (∀ operations trace, Undergoes fresh operations trace response → response.phase = .initial →
      response.cookies.values.Perm (queued operations)) ∧
    ∀ (cookie : SetCookie) text, cookie.encode now = .ok text →
      ∃ value, HeaderValue.ofText? text = some value ∧ value.bytes = Bytes.ofText text := by
  refine ⟨head_built_iff.trans encodable_iff, ?built, ?queued, ?legal⟩
  case built =>
    intro head built
    obtain ⟨status, texts, encodings, yields⟩ := head_yields built
    have room : head.headers.HasRoom := by
      rw [HeaderMap.HasRoom, yields.length_eq]
      exact (response.headers.size_addAll_le "set-cookie" texts).trans_lt few
    refine ⟨status, room, texts, encodings, yields.wire_eq, fun name => ?_⟩
    rw [yields.getAll_eq, Headers.getAll_addAll]
    have same : Headers.key name.text = Headers.key "set-cookie" ↔ name = .setCookie := by
      rw [Headers.key_text, show Headers.key "set-cookie" = _ from Headers.key_text .setCookie]
      exact HeaderName.toList_injective.eq_iff
    simp only [same]
  case queued =>
    intro operations trace run initial
    rw [run.amended initial]
    exact foldl_amend_cookies_perm operations fresh
  case legal =>
    intro cookie text encodes
    obtain ⟨permitted, -⟩ := SetCookie.encode_eq_ok_iff.1 encodes
    obtain ⟨encoded, same, legal⟩ := SetCookie.encode_ok (SetCookie.check_eq_ok_iff.2 permitted) now
    obtain rfl : text = encoded := Except.ok.inj (encodes.symm.trans same)
    obtain ⟨value, read⟩ := Option.isSome_iff_exists.1 legal
    exact ⟨value, read, HeaderValue.ofText?_eq_some_iff.1 read⟩

/-- One cookie is set as a header, and one that is queued has a path beyond ASCII. -/
def dressing : List (Exchange Handler.interface) := [
  ⟨.editHeaders fun headers => ((headers.add "X-Multi" "a").add "Set-Cookie" "s=0").add "x-multi" "b", .ok ()⟩,
  ⟨.addCookie ⟨"a", "1", none, some "/é", .session, false, false⟩, .ok ()⟩,
  ⟨.addCookie ⟨"b", "2", none, none, .session, true, false⟩, .ok ()⟩]

def dressed : Outbound := dressing.foldl (fun response operation => amend operation.question response) fresh

theorem dressed_exact :
    Undergoes fresh dressing [] dressed ∧ dressed.phase = .initial ∧ dressed.cookies.values.Perm (queued dressing) ∧
      dressed.headers.size + 1 < HeaderMap.maxNames ∧ dressed.headers.Sendable ∧
      ∃ head, dressed.head (0 : Int) = .ok head ∧ head.status = .ok ∧ head.headers.HasRoom ∧
        head.headers.wire = [("x-multi", ["a", "b"].map Bytes.ofText),
          ("set-cookie", ["s=0", "a=1; Path=/é", "b=2; HttpOnly"].map Bytes.ofText)] := by
  have few : dressed.headers.size + 1 < HeaderMap.maxNames := by decide
  obtain ⟨builds, exact, queues, -⟩ := head_exact dressed (0 : Int) few
  have run : Undergoes fresh dressing ([] ++ ([] ++ ([] ++ []))) dressed :=
    .perform .here (.perform .here (.perform .here .rest))
  have sendable : dressed.headers.Sendable := by decide
  have encodings : dressed.cookies.values.map (·.encode (0 : Int)) = ["a=1; Path=/é", "b=2; HttpOnly"].map .ok := by
    decide
  have encodes : ∀ cookie ∈ dressed.cookies.values, ∃ text, cookie.encode (0 : Int) = .ok text := by
    intro cookie member
    have encoded := List.mem_map_of_mem (f := (·.encode (0 : Int))) member
    rw [encodings, List.mem_map] at encoded
    obtain ⟨text, -, same⟩ := encoded
    exact ⟨text, same.symm⟩
  obtain ⟨head, built⟩ := builds.2 ⟨sendable, encodes⟩
  obtain ⟨status, room, texts, same, wire, -⟩ := exact head built
  obtain rfl : texts = ["a=1; Path=/é", "b=2; HttpOnly"] :=
    List.map_injective_iff.2 (fun _ _ => Except.ok.inj) (same.symm.trans encodings)
  exact ⟨run, rfl, queues dressing [] run rfl, few, sendable, head, built, status, room, wire.trans (by decide)⟩

/-- A response with one header, whose name is of the given length. -/
def labelled (length : Nat) : Outbound := { fresh with headers := .repeated length }

theorem labelled_head {length : Nat} (long : 65535 < length) (now : Instant) : (labelled length).head now =
    .error (.invalidHeader (String.ofList (List.replicate length 'a') ++ ": invalid HTTP header name")) := by
  simp only [head, labelled, Headers.repeated_toHeaderMap long, bind, Except.bind]

/-- A name of one character too many stops the head. -/
theorem overlong_head_fails :
    (labelled 65536).phase = .initial ∧ (labelled 65536).headers.Grammatical ∧
      (labelled 65536).cookies.values = [] ∧
      (labelled 65536).head 0 = .error (.invalidHeader
        (String.ofList (List.replicate 65536 'a') ++ ": invalid HTTP header name")) ∧
      ¬ ∀ (response : Outbound) (now : Instant), response.phase = .initial →
        ((∃ head, response.head now = .ok head) ↔ response.headers.Grammatical ∧
          ∀ cookie ∈ response.cookies.values, ∃ text, cookie.encode now = .ok text) := by
  have grammatical : (labelled 65536).headers.Grammatical := Headers.repeated_grammatical (by omega)
  have none : (labelled 65536).cookies.values = [] := rfl
  have failed := labelled_head (show 65535 < 65536 by omega) 0
  refine ⟨rfl, grammatical, none, failed, fun builds => ?_⟩
  obtain ⟨head, built⟩ := (builds (labelled 65536) 0 rfl).2 ⟨grammatical, none ▸ List.forall_mem_nil _⟩
  rw [failed] at built
  cases built

end Outbound

end Sluice
