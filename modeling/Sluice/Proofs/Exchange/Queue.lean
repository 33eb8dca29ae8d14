import Sluice.Proofs.Cookie.Attributes
import Sluice.Proofs.Cookie.Order
import Sluice.Proofs.Exchange.Head
import Sluice.Proofs.Headers.Translation

/-! The cookies that are queued on a response. The head carries one value for each, after those that were set as
headers. The values stand in the order of the map, so they are in the order in which the cookies were queued exactly if
no name comes back after another one. -/

set_option autoImplicit false

namespace Sluice

namespace HeaderMap

variable {name : HeaderName} {value : HeaderValue}

theorem getAll_append (map : HeaderMap) (name : HeaderName) (value : HeaderValue) :
    (map.append name value).getAll name = map.getAll name ++ [value] := by
  unfold getAll
  rw [append_entries]
  induction map.entries with
  | nil => simp [appendTo]
  | cons entry rest ih =>
    obtain ⟨other, values⟩ := entry
    by_cases same : other = name
    · simp [appendTo, same]
    · simpa [appendTo, same] using ih

end HeaderMap

namespace SetCookie

/-- At one time, cookies are known by their encodings. -/
theorem eq_of_map_encode {now : Instant} {first second : List SetCookie} {texts : List String}
    (one : first.map (·.encode now) = texts.map .ok) (other : second.map (·.encode now) = texts.map .ok) :
    first = second := by
  induction texts generalizing first second with
  | nil =>
    rw [List.map_nil, List.map_eq_nil_iff] at one other
    rw [one, other]
  | cons text rest ih =>
    obtain ⟨cookie, later, rfl, encodes, remains⟩ := List.map_eq_cons_iff.1 one
    obtain ⟨twin, others, rfl, same, remain⟩ := List.map_eq_cons_iff.1 other
    rw [eq_of_encode_eq encodes same, ih remains remain]

end SetCookie

namespace Outbound

variable {response : Outbound} {now : Instant}

/-- Queues cookies one after another. -/
def addCookies (response : Outbound) (cookies : List SetCookie) : Outbound :=
  cookies.foldl (fun response cookie => (response.addCookie cookie).2) response

theorem addCookies_eq (initial : response.phase = .initial) (cookies : List SetCookie) :
    response.addCookies cookies =
      { response with cookies := response.cookies.addAll (cookies.map fun cookie => (cookie.name, cookie)) } := by
  unfold addCookies CookieMap.addAll
  induction cookies generalizing response with
  | nil => rfl
  | cons cookie rest ih =>
    have queued : (response.addCookie cookie).2 =
        { response with cookies := response.cookies.add cookie.name cookie } := by
      simp [addCookie, isCommitted, initial]
    rw [List.foldl_cons, queued, ih (by exact initial)]
    rfl

theorem appendCookies_cons {map full : HeaderMap} {cookie : SetCookie} {rest : List SetCookie}
    (appended : appendCookies now map (cookie :: rest) = .ok full) :
    ∃ text value, cookie.encode now = .ok text ∧ HeaderValue.ofText? text = some value ∧
      appendCookies now (map.append .setCookie value) rest = .ok full := by
  unfold appendCookies at appended
  cases encodes : cookie.encode now with
  | error cause => simp [encodes, bind, Except.bind] at appended
  | ok text =>
    cases reads : HeaderValue.ofText? text with
    | none => simp [encodes, reads, bind, Except.bind] at appended
    | some value =>
      simp only [encodes, reads, bind, Except.bind] at appended
      exact ⟨text, value, rfl, reads, appended⟩

/-- Each cookie becomes one value, in order, after those that are there. -/
theorem appendCookies_values {map full : HeaderMap} {cookies : List SetCookie}
    (appended : appendCookies now map cookies = .ok full) :
    ∃ values : List HeaderValue, full.getAll .setCookie = map.getAll .setCookie ++ values ∧
      cookies.map (·.encode now) = (values.map HeaderValue.text).map .ok := by
  induction cookies generalizing map with
  | nil =>
    cases appended
    exact ⟨[], by simp, rfl⟩
  | cons cookie rest ih =>
    obtain ⟨text, value, encodes, reads, later⟩ := appendCookies_cons appended
    obtain ⟨values, carried, encodings⟩ := ih later
    refine ⟨value :: values, ?_, ?_⟩
    · rw [carried, HeaderMap.getAll_append, List.append_assoc]
      rfl
    · simp [encodes, encodings, HeaderValue.text_of_ofText? reads]

/-- A head is built in two goes: the headers first, then the cookies. -/
theorem head_parts {head : Head} (built : response.head now = .ok head) :
    ∃ plain, response.headers.toHeaderMap = .ok plain ∧
      appendCookies now plain response.cookies.values = .ok head.headers ∧ head.status = response.status.getD .ok := by
  unfold Outbound.head at built
  cases translated : response.headers.toHeaderMap with
  | error cause => simp [translated, bind, Except.bind] at built
  | ok plain =>
    cases appended : appendCookies now plain response.cookies.values with
    | error cause => simp [translated, appended, bind, Except.bind] at built
    | ok full =>
      obtain rfl : (⟨response.status.getD .ok, full⟩ : Head) = head := by
        simpa [translated, appended, bind, Except.bind, pure, Except.pure] using built
      exact ⟨plain, rfl, appended, rfl⟩

theorem head_values {head : Head} (built : response.head now = .ok head) :
    ∃ (plain : HeaderMap) (values : List HeaderValue), response.headers.toHeaderMap = .ok plain ∧
      head.headers.getAll .setCookie = plain.getAll .setCookie ++ values ∧
      response.cookies.values.map (·.encode now) = (values.map HeaderValue.text).map .ok := by
  obtain ⟨plain, translated, appended, -⟩ := head_parts built
  obtain ⟨values, carried, encodings⟩ := appendCookies_values appended
  exact ⟨plain, values, translated, carried, encodings⟩

/-- Every cookie that is added to a map is listed once, name by name in the order in which the names first came, and
within a name in the order in which the cookies were added. The listing is in the order of adding exactly if no name
comes back after another one. So it is with the cookies that are queued on a response: its head carries one value for
each, after those set as headers, and these are in the order of queuing exactly if no name comes back. -/
theorem in_order_iff_undivided {α : Type} (added : List (String × α)) :
    ((CookieMap.empty.addAll added).values.Perm (added.map (·.2)) ∧
      (CookieMap.empty.addAll added).values =
        (added.map (·.1)).eraseDups.flatMap (fun name => CookieMap.under name added) ∧
      (CookieMap.fieldsOf (CookieMap.empty.addAll added).entries = added ↔ CookieMap.Undivided (added.map (·.1))) ∧
      (CookieMap.Undivided (added.map (·.1)) → (CookieMap.empty.addAll added).values = added.map (·.2))) ∧
    ∀ (response : Outbound) (cookies : List SetCookie) (now : Instant) (head : Head),
      response.phase = .initial → response.cookies = .empty → (response.addCookies cookies).head now = .ok head →
      ∃ (plain : HeaderMap) (values : List HeaderValue), response.headers.toHeaderMap = .ok plain ∧
        head.headers.getAll .setCookie = plain.getAll .setCookie ++ values ∧
        (response.addCookies cookies).cookies.values.Perm cookies ∧
        (response.addCookies cookies).cookies.values.map (·.encode now) = (values.map HeaderValue.text).map .ok ∧
        (cookies.map (·.encode now) = (values.map HeaderValue.text).map .ok ↔
          CookieMap.Undivided (cookies.map (·.name))) := by
  refine ⟨⟨CookieMap.values_perm added, CookieMap.values_eq_flatMap added, CookieMap.fields_addAll_eq_iff added,
    CookieMap.values_addAll_of_undivided⟩, ?_⟩
  intro response cookies now head initial none built
  have queued := addCookies_eq initial cookies
  rw [none] at queued
  rw [queued] at built ⊢
  obtain ⟨plain, values, translated, carried, encodings⟩ := head_values built
  have listed := CookieMap.values_perm (cookies.map fun cookie => (cookie.name, cookie))
  have order := CookieMap.values_addAll_eq_iff SetCookie.name fun entry
      (member : entry ∈ cookies.map fun cookie => (cookie.name, cookie)) => by
    obtain ⟨cookie, -, rfl⟩ := List.mem_map.1 member
    rfl
  simp only [List.map_map, Function.comp_def, List.map_id'] at listed order
  refine ⟨plain, values, translated, carried, listed, encodings, fun inOrder => ?_, fun undivided => ?_⟩
  · exact order.1 (SetCookie.eq_of_map_encode encodings inOrder)
  · rw [← encodings, order.2 undivided]

def batch : List SetCookie :=
  [⟨"a", "1", none, none, .session, false, false⟩, ⟨"a", "2", none, some "/", .seconds 60, false, true⟩,
    ⟨"b", "3", none, none, .session, true, false⟩]

/-- Cookies of one name that follow each other go out in order. -/
theorem batch_in_order :
    fresh.phase = .initial ∧ fresh.cookies = .empty ∧ CookieMap.Undivided (batch.map (·.name)) ∧
      ∃ head, (fresh.addCookies batch).head 0 = .ok head ∧
        batch.map (·.encode 0) = ((head.headers.getAll .setCookie).map HeaderValue.text).map .ok := by
  obtain ⟨⟨-, -, divides, -⟩, queued⟩ :=
    in_order_iff_undivided (batch.map fun cookie : SetCookie => (cookie.name, cookie))
  have undivided : CookieMap.Undivided (batch.map (·.name)) := divides.1 (by decide)
  have encodable : (fresh.addCookies batch).Encodable :=
    ⟨List.forall_mem_nil _, fun cookie member => by
      have each : ∀ cookie ∈ (fresh.addCookies batch).cookies.values, cookie.check.toOption = some () := by decide
      have passed := each cookie member
      cases checked : cookie.check with
      | error defect => simp [checked, Except.toOption] at passed
      | ok => rfl⟩
  obtain ⟨head, built⟩ := head_ok encodable 0
  obtain ⟨plain, values, translated, carried, -, -, order⟩ := queued fresh batch 0 head rfl rfl built
  obtain rfl : HeaderMap.empty = plain := Except.ok.inj translated
  exact ⟨rfl, rfl, undivided, head, built, carried ▸ order.2 undivided⟩

/-- A cookie whose name comes back is put before the cookie that came between. -/
theorem returning_name_not_in_order :
    (CookieMap.empty.addAll [("a", 1), ("b", 2), ("a", 3)]).values = [1, 3, 2] ∧
      (¬ ∀ added : List (String × Nat), (CookieMap.empty.addAll added).values = added.map (·.2)) ∧
      ((fresh.addCookies [⟨"a", "1", none, none, .session, false, false⟩,
          ⟨"b", "2", none, none, .session, false, false⟩,
          ⟨"a", "3", none, none, .session, false, false⟩]).head 0).toOption.map
        (fun head => (head.headers.getAll .setCookie).map HeaderValue.text) = some ["a=1", "a=3", "b=2"] := by
  refine ⟨rfl, fun inOrder => ?_, by decide +kernel⟩
  have listed := inOrder [("a", 1), ("b", 2), ("a", 3)]
  revert listed
  decide

end Outbound

end Sluice
