import Sluice.Proofs.Cookie.Encoding
import Sluice.Proofs.Exchange.Concatenation
import Sluice.Proofs.Exchange.Course

/-! Whether the head of a response can be built, and what a write does if it cannot. It can be built if every header
fits and every cookie passes its check; the time plays no part in that. A chunk that needs such a head fails the
write and leaves everything as it was. A write without chunks comes straight to the completion, which aborts. -/

set_option autoImplicit false

namespace Sluice

/-- The errors that tell of a head that cannot be built. -/
def Fault.isEncoding : Fault → Bool
  | .invalidHeader _ | .cookieEncoding .. => true
  | _ => false

namespace Headers

/-- The name of an entry and all its values can be sent. -/
def Fits (entry : String × List String) : Prop :=
  (HeaderName.ofText? entry.1).isSome = true ∧ ∀ value ∈ entry.2, (HeaderValue.ofText? value).isSome = true

def Encodable (headers : Headers) : Prop := ∀ entry ∈ headers.entries, Fits entry

/-- What an attempt tells: it succeeds exactly if everything fits, else it fails with an error of encoding. -/
def Verdict (fits : Prop) : Option Fault → Prop
  | none => fits
  | some fault => fault.isEncoding = true ∧ ¬ fits

theorem appendValues_verdict (name : String) (key : HeaderName) (map : HeaderMap) (values : List String) :
    Verdict (∀ value ∈ values, (HeaderValue.ofText? value).isSome = true)
      (appendValues name key map values).2 := by
  induction values generalizing map with
  | nil => exact List.forall_mem_nil _
  | cons value rest ih =>
    unfold appendValues
    cases read : HeaderValue.ofText? value with
    | none => simp [Verdict, Fault.isEncoding, read]
    | some legal => simpa [read] using ih (map.append key legal)

theorem appendEntries_verdict (map : HeaderMap) (entries : List (String × List String)) :
    Verdict (∀ entry ∈ entries, Fits entry) (appendEntries map entries).2 := by
  induction entries generalizing map with
  | nil => exact List.forall_mem_nil _
  | cons entry rest ih =>
    obtain ⟨name, values⟩ := entry
    unfold appendEntries
    cases read : HeaderName.ofText? name with
    | none => simp [Verdict, Fault.isEncoding, Fits, read]
    | some key =>
      have verdict := appendValues_verdict name key map values
      cases appended : appendValues name key map values with
      | mk map fault =>
        rw [appended] at verdict
        cases fault with
        | none =>
          -- this entry decides nothing, so the verdict on the rest is the one on all
          have fits : Fits (name, values) := ⟨by simp [read], verdict⟩
          have same : (∀ entry ∈ (name, values) :: rest, Fits entry) ↔ ∀ entry ∈ rest, Fits entry := by
            simp [fits]
          rw [same]
          simpa only [appended] using ih map
        | some fault =>
          simp only [appended]
          exact ⟨verdict.1, fun fits => verdict.2 (fits (name, values) (by simp)).2⟩

theorem toHeaderMap_ok {headers : Headers} (encodable : headers.Encodable) :
    ∃ map, headers.toHeaderMap = .ok map := by
  have verdict := appendEntries_verdict HeaderMap.empty headers.entries
  unfold toHeaderMap appendTo
  cases appended : appendEntries HeaderMap.empty headers.entries with
  | mk map fault =>
    cases fault with
    | none => exact ⟨map, rfl⟩
    | some fault =>
      rw [appended] at verdict
      exact absurd encodable verdict.2

theorem toHeaderMap_error {headers : Headers} (unencodable : ¬ headers.Encodable) :
    ∃ cause, cause.isEncoding = true ∧ headers.toHeaderMap = .error cause := by
  have verdict := appendEntries_verdict HeaderMap.empty headers.entries
  unfold toHeaderMap appendTo
  cases appended : appendEntries HeaderMap.empty headers.entries with
  | mk map fault =>
    rw [appended] at verdict
    cases fault with
    | none => exact absurd verdict unencodable
    | some fault => exact ⟨fault, verdict.1, rfl⟩

end Headers

namespace Outbound

variable {response : Outbound}

/-- The head can be built: every header fits and every queued cookie passes its check. -/
structure Encodable (response : Outbound) : Prop where
  headers : response.headers.Encodable
  cookies : ∀ cookie ∈ response.cookies.values, cookie.check = .ok ()

theorem appendCookies_passed {cookie : SetCookie} (passed : cookie.check = .ok ()) (now : Instant) (map : HeaderMap)
    (rest : List SetCookie) :
    ∃ value, appendCookies now map (cookie :: rest) = appendCookies now (map.append .setCookie value) rest := by
  obtain ⟨encoded, encodes, legal⟩ := SetCookie.encode_ok passed now
  obtain ⟨value, reads⟩ := Option.isSome_iff_exists.1 legal
  exact ⟨value, by simp only [appendCookies, encodes, bind, Except.bind, reads]⟩

theorem appendCookies_ok {cookies : List SetCookie} (passed : ∀ cookie ∈ cookies, cookie.check = .ok ())
    (now : Instant) (map : HeaderMap) : ∃ full, appendCookies now map cookies = .ok full := by
  induction cookies generalizing map with
  | nil => exact ⟨map, rfl⟩
  | cons cookie rest ih =>
    obtain ⟨value, appended⟩ := appendCookies_passed (passed cookie (by simp)) now map rest
    rw [appended]
    exact ih (fun other member => passed other (by simp [member])) _

/-- The first cookie that fails its check fails them all, at any time. -/
theorem appendCookies_error {cookies : List SetCookie} (failed : ¬ ∀ cookie ∈ cookies, cookie.check = .ok ()) :
    ∃ cause, cause.isEncoding = true ∧ ∀ now map, appendCookies now map cookies = .error cause := by
  induction cookies with
  | nil => exact absurd (by simp) failed
  | cons cookie rest ih =>
    cases checked : cookie.check with
    | error defect =>
      refine ⟨.cookieEncoding cookie.name defect.reason, rfl, fun now map => ?_⟩
      simp only [appendCookies, SetCookie.encode_error checked, bind, Except.bind]
    | ok done =>
      obtain ⟨cause, encoding, fails⟩ := ih fun passed => failed (by simpa [checked] using passed)
      refine ⟨cause, encoding, fun now map => ?_⟩
      obtain ⟨value, appended⟩ := appendCookies_passed checked now map rest
      rw [appended, fails]

theorem head_ok (encodable : response.Encodable) (now : Instant) : ∃ head, response.head now = .ok head := by
  obtain ⟨map, built⟩ := Headers.toHeaderMap_ok encodable.headers
  obtain ⟨full, appended⟩ := appendCookies_ok encodable.cookies now map
  exact ⟨⟨response.status.getD .ok, full⟩, by simp only [head, built, bind, Except.bind, appended]; rfl⟩

/-- A head that cannot be built fails with one and the same error at all times. -/
theorem head_error (unencodable : ¬ response.Encodable) :
    ∃ cause, cause.isEncoding = true ∧ ∀ now, response.head now = .error cause := by
  by_cases headers : response.headers.Encodable
  · obtain ⟨map, built⟩ := Headers.toHeaderMap_ok headers
    obtain ⟨cause, encoding, fails⟩ := appendCookies_error fun cookies => unencodable ⟨headers, cookies⟩
    exact ⟨cause, encoding, fun now => by simp only [head, built, bind, Except.bind, fails]⟩
  · obtain ⟨cause, encoding, fails⟩ := Headers.toHeaderMap_error headers
    exact ⟨cause, encoding, fun now => by simp only [head, fails, bind, Except.bind]⟩

section
open Program Writer

variable {cause : Fault}

theorem sendHeaders_unsendable (initial : response.phase = .initial) (fails : ∀ now, response.head now = .error cause) :
    response.sendHeaders = .ask .now fun _ => .done (.error cause, response) := by
  simp [sendHeaders, initial, fails]

/-- The write fails with the cause and has done nothing: it asked for the time, and left the response as it was. -/
def Fails (response : Outbound) (cause : Fault) (write : Writing (Except Fault Unit × Outbound)) : Prop :=
  write = .ask .now fun _ => .done (.error cause, response)

/-- Over a writer that is open when it is asked, the write makes one call, to abort with the cause, and the response
is complete. -/
def Aborts (response : Outbound) (cause : Fault) (write : Writing (Except Fault Unit × Outbound)) : Prop :=
  ∀ trace result, write.Reaches trace (.done result) → (∀ isOpen, .looked isOpen ∈ uses trace → isOpen = true) →
    (∃ outcome, uses trace = [.looked true, .made (.closeWith cause) outcome]) ∧
      result.2 = { response with phase := .complete }

/-- The first chunk fails the write. -/
theorem writeWith_fails (initial : response.phase = .initial) (fails : ∀ now, response.head now = .error cause)
    (bytes : Bytes) (rest : Chunks) : response.Fails cause (response.writeWith (.ok bytes :: rest)) := by
  have going : response.phase ≠ .complete := by simp [initial]
  rw [Fails, writeWith, forward_going going, forwardChunks_ok, writeData_eq, sendHeaders_unsendable initial fails]
  rfl

theorem setComplete_unsendable (initial : response.phase = .initial)
    (fails : ∀ now, response.head now = .error cause) :
    response.setComplete none = .ask .isOpen fun isOpen =>
      if isOpen then .ask .now fun _ => .ask (.call (.closeWith cause)) fun _ =>
        .done { response with phase := .complete }
      else .done { response with phase := .complete } := by
  simp only [setComplete, initial]
  congr 1
  funext isOpen
  cases isOpen with
  | false => rfl
  | true =>
    rw [sendHeaders_unsendable initial fails]
    simp [initial]

/-- Without a chunk nothing asks for the head before the completion does. -/
theorem writeWith_nil_aborts (initial : response.phase = .initial) (fails : ∀ now, response.head now = .error cause) :
    response.Aborts cause (response.writeWith []) := by
  have going : response.phase ≠ .complete := by simp [initial]
  have ensured : (response.writeWith []).Ensures (World.free Writer.interface) (fun result history =>
      (∀ isOpen, .looked isOpen ∈ uses history → isOpen = true) →
        (∃ outcome, uses history = [.looked true, .made (.closeWith cause) outcome]) ∧
          result.2 = { response with phase := .complete }) [] := by
    rw [writeWith, forward_going going]
    change ((response.setComplete none).bind _).Ensures _ _ _
    rw [setComplete_unsendable initial fails, ask_bind, ensures_free_ask]
    intro isOpen
    cases isOpen with
    | false =>
      -- this answer is the one that the condition on the trace rules out
      intro opened
      cases opened false (by simp)
    | true =>
      simp only [if_true, ask_bind, done_bind, ensures_free_ask]
      intro now outcome opened
      exact ⟨⟨outcome, rfl⟩, rfl⟩
  intro trace result run opened
  exact ensured.of_reaches run opened

/-- A head that cannot be built fails every write that has a chunk, and nothing is done; a write without chunks comes
to the completion, which aborts with the same error. -/
theorem unencodable_head_fails (response : Outbound) (initial : response.phase = .initial)
    (unencodable : ¬ response.Encodable) :
    ∃ cause : Fault, cause.isEncoding = true ∧ (∀ now, response.head now = .error cause) ∧
      (∀ chunks : List Bytes, chunks ≠ [] → response.Fails cause (response.writeWith (chunks.map .ok))) ∧
      (∀ bodies : List (List Bytes), bodies.flatten ≠ [] →
        response.Fails cause (response.writeAndFlushWith (bodies.map (·.map .ok)))) ∧
      response.Aborts cause (response.writeWith []) ∧
      (∀ bodies : List (List Bytes), bodies.flatten = [] →
        response.Aborts cause (response.writeAndFlushWith (bodies.map (·.map .ok)))) := by
  obtain ⟨cause, encoding, fails⟩ := head_error unencodable
  have going : response.phase ≠ .complete := by simp [initial]
  have failing : ∀ chunks : List Bytes, chunks ≠ [] → response.Fails cause (response.writeWith (chunks.map .ok)) := by
    intro chunks some
    obtain ⟨bytes, rest, rfl⟩ := List.exists_cons_of_ne_nil some
    exact writeWith_fails initial fails bytes (rest.map .ok)
  have flushes : ∀ bodies : List (List Bytes), response.writeAndFlushWith (bodies.map (·.map .ok)) =
      response.writeWith (bodies.flatten.map .ok) := by
    intro bodies
    rw [writeAndFlushWith, forwardAll_flatten going, writeWith, List.map_flatten]
  refine ⟨cause, encoding, fails, failing, ?_, writeWith_nil_aborts initial fails, ?_⟩
  · intro bodies some
    rw [flushes]
    exact failing bodies.flatten some
  · intro bodies none
    rw [flushes, none]
    exact writeWith_nil_aborts initial fails

/-- A response with a cookie whose value holds a semicolon. -/
def spoilt : Outbound := { fresh with cookies := ⟨[("bad", [⟨"bad", "a;b", none, none, .session, false, false⟩])]⟩ }

theorem spoilt_unencodable : ¬ spoilt.Encodable := by
  intro encodable
  have passed := encodable.cookies ⟨"bad", "a;b", none, none, .session, false, false⟩ (by simp [spoilt, CookieMap.values])
  have failed : SetCookie.check ⟨"bad", "a;b", none, none, .session, false, false⟩ = .error (.illegal 0x3B .value) := by
    decide
  rw [failed] at passed
  cases passed

theorem spoilt_head_fails :
    spoilt.phase = .initial ∧ ¬ spoilt.Encodable ∧
      ∃ cause : Fault, cause.isEncoding = true ∧
        spoilt.Fails cause (spoilt.writeWith [.ok [0x61], .ok [0x62]]) ∧
        spoilt.Fails cause (spoilt.writeAndFlushWith [[], [.ok [0x61]]]) ∧
        spoilt.Aborts cause (spoilt.writeAndFlushWith [[], []]) := by
  obtain ⟨cause, encoding, -, write, flush, -, empty⟩ := unencodable_head_fails spoilt rfl spoilt_unencodable
  exact ⟨rfl, spoilt_unencodable, cause, encoding, write [[0x61], [0x62]] (by simp), flush [[], [[0x61]]] (by simp),
    empty [[], []] rfl⟩

/-- Over an open writer that takes every call, a write of no chunks does not report the head that cannot be built. -/
theorem empty_body_not_refused :
    spoilt.phase = .initial ∧ ¬ spoilt.Encodable ∧
      (spoilt.writeWith []).Reaches
        [⟨.isOpen, true⟩, ⟨.now, (0 : Int)⟩,
          ⟨.call (.closeWith (.cookieEncoding "bad" "illegal character ';' in value")), .ok ()⟩]
        (.done (.ok (), { spoilt with phase := .complete })) ∧
      ¬ ∃ cause, spoilt.Fails cause (spoilt.writeWith []) := by
  have run : (spoilt.writeWith []).Reaches
      [⟨.isOpen, true⟩, ⟨.now, (0 : Int)⟩,
        ⟨.call (.closeWith (.cookieEncoding "bad" "illegal character ';' in value")), .ok ()⟩]
      (.done (.ok (), { spoilt with phase := .complete })) := .step (.step (.step .here))
  refine ⟨rfl, spoilt_unencodable, run, ?_⟩
  rintro ⟨cause, fails⟩
  rw [show spoilt.writeWith [] = _ from fails] at run
  cases run

end

end Outbound

end Sluice
