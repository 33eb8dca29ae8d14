import Sluice.Exchange.Inbound
import Sluice.Proofs.Cookie.Order
import Sluice.Proofs.Cookie.Reading
import Sluice.Proofs.Headers.Translation

/-! The cookies of a request. They are those that its cookie headers say, one after another. It is of no account how a
client divides them among headers: the values of several headers are read as one value with semicolons between, also
where they are no UTF-8. -/

set_option autoImplicit false

namespace Sluice

def HeaderName.cookie : HeaderName := ⟨"cookie", by decide, by decide, by decide⟩

namespace HeaderValue

theorem legal_intercalate {separator : Bytes} (between : separator.all isLegal = true) (values : List HeaderValue) :
    (separator.intercalate (values.map (·.bytes))).all isLegal = true := by
  rw [List.all_eq_true] at between ⊢
  intro b member
  rcases Text.mem_intercalate member with separates | ⟨bytes, among, inside⟩
  · exact between b separates
  · obtain ⟨value, -, rfl⟩ := List.mem_map.1 among
    exact List.all_eq_true.1 value.legal b inside

/-- Several values as one, with semicolons between. -/
def joined (values : List HeaderValue) : HeaderValue :=
  ⟨[0x3B].intercalate (values.map (·.bytes)), legal_intercalate (by decide) values⟩

theorem text_joined (values : List HeaderValue) : (joined values).text = String.intercalate ";" (values.map text) := by
  rw [← String.toList_inj, String.toList_intercalate, text, Bytes.toTextLossy, String.toList_ofList, joined,
    Utf8.decodeLossy_intercalate (by decide), List.map_map, List.map_map]
  have each : (String.toList ∘ text) = Utf8.decodeLossy ∘ (·.bytes) := by
    funext value
    simp [text, Bytes.toTextLossy]
  rw [each]
  rfl

end HeaderValue

namespace Cookie

theorem parse_intercalate (headers : List String) : parse (String.intercalate ";" headers) = headers.flatMap parse := by
  induction headers with
  | nil => rfl
  | cons header rest ih =>
    cases rest with
    | nil => simp
    | cons next others =>
      rw [String.intercalate_cons_cons, parse_append, ih]
      simp

theorem parse_of_not_mem {segment : String} (absent : ';' ∉ segment.toList) :
    parse segment = (ofSegment? segment.toList).toList := by
  rw [parse, Text.splitOn_of_not_mem absent]
  cases found : ofSegment? segment.toList <;> simp [found]

end Cookie

namespace HeaderValue

theorem joined_singleton (value : HeaderValue) : joined [value] = value := by
  apply HeaderValue.ext
  simp [joined]

end HeaderValue

namespace Inbound

/-- The cookies are those listed: each name stands where it first came, with all its cookies in order. -/
def Holds (request : Inbound) (listed : List Cookie) : Prop :=
  CookieMap.Gathers request.cookies.entries (listed.map fun cookie => (cookie.name, cookie))

theorem addCookies_eq_addAll (map : CookieMap Cookie) (cookies : List Cookie) :
    addCookies map cookies = map.addAll (cookies.map fun cookie => (cookie.name, cookie)) := by
  rw [addCookies, CookieMap.addAll, List.foldl_map]

variable {context : Context} {request : Request} {inbound : Inbound}

/-- The cookies of an adapted request are read from its cookie headers as if there were one. -/
theorem cookies_ofRequest (context : Context) (request : Request) :
    (ofRequest context request).map cookies = (Target.validate request.uri.target).map fun _ =>
      addCookies .empty (Cookie.parse (HeaderValue.joined (request.headers.getAll .cookie)).text) := by
  have values := Headers.getAll_ofHeaderMap request.headers .cookie
  rw [HeaderValue.text_joined, Cookie.parse_intercalate, ← values, ofRequest]
  cases Target.validate request.uri.target <;> rfl

theorem holds_of_ofRequest (adapted : ofRequest context request = .ok inbound) :
    inbound.Holds (Cookie.parse (HeaderValue.joined (request.headers.getAll .cookie)).text) := by
  have held := cookies_ofRequest context request
  rw [adapted] at held
  cases valid : Target.validate request.uri.target with
  | error fault => simp [valid, Except.map] at held
  | ok =>
    simp only [valid, Except.map, Except.ok.injEq] at held
    rw [Holds, held, addCookies_eq_addAll]
    exact CookieMap.gathers_addAll _

theorem parse_malformed {before after : List String} {segment : String} (absent : ';' ∉ segment.toList)
    (malformed : Cookie.Malformed segment.toList) : Cookie.parse (String.intercalate ";" (before ++ segment :: after)) =
      Cookie.parse (String.intercalate ";" (before ++ after)) := by
  simp only [Cookie.parse_intercalate, List.flatMap_append, List.flatMap_cons, Cookie.parse_of_not_mem absent]
  rw [Cookie.ofSegment?_eq_none_iff.2 malformed, Option.toList_none, List.nil_append]

theorem parse_formed {before after : List String} {segment : String} (absent : ';' ∉ segment.toList)
    (formed : ¬ Cookie.Malformed segment.toList) : ∃ cookie,
      Cookie.parse (String.intercalate ";" (before ++ segment :: after)) =
        Cookie.parse (String.intercalate ";" before) ++ cookie :: Cookie.parse (String.intercalate ";" after) := by
  simp only [Cookie.parse_intercalate, List.flatMap_append, List.flatMap_cons, Cookie.parse_of_not_mem absent]
  have read : Cookie.ofSegment? segment.toList ≠ none := fun none => formed (Cookie.ofSegment?_eq_none_iff.1 none)
  obtain ⟨cookie, found⟩ := Option.ne_none_iff_exists'.1 read
  exact ⟨cookie, by simp [found]⟩

/-- Cookies may be divided among headers in any way. A header joined from two is read as the one and then the other. A
request has the cookies that its cookie headers say, in order; with one cookie header in place of several it has the same
ones. A malformed segment of the headers takes away nothing but itself, while any other is one cookie. -/
theorem cookies_undivided :
    (∀ first second : String,
      Cookie.parse (first ++ ";" ++ second) = Cookie.parse first ++ Cookie.parse second) ∧
    (∀ (context : Context) (request : Request) (inbound : Inbound), ofRequest context request = .ok inbound →
      inbound.Holds ((request.headers.getAll .cookie).flatMap fun value =>
        Cookie.parse (Bytes.toTextLossy value.bytes))) ∧
    (∀ (context : Context) (request : Request) (apart single : HeaderMap) (values : List HeaderValue),
      apart.getAll .cookie = values → single.getAll .cookie = [HeaderValue.joined values] →
      (ofRequest context { request with headers := single }).map cookies =
        (ofRequest context { request with headers := apart }).map cookies) ∧
    ∀ (before after : List String) (segment : String), ';' ∉ segment.toList →
      (Cookie.Malformed segment.toList →
        Cookie.parse (String.intercalate ";" (before ++ segment :: after)) =
          Cookie.parse (String.intercalate ";" (before ++ after))) ∧
      (¬ Cookie.Malformed segment.toList → ∃ cookie,
        Cookie.parse (String.intercalate ";" (before ++ segment :: after)) =
          Cookie.parse (String.intercalate ";" before) ++ cookie :: Cookie.parse (String.intercalate ";" after)) ∧
      ∀ (context : Context) (request : Request) (inbound : Inbound), ofRequest context request = .ok inbound →
        (HeaderValue.joined (request.headers.getAll .cookie)).text = String.intercalate ";" (before ++ segment :: after) →
        (Cookie.Malformed segment.toList →
          inbound.Holds (Cookie.parse (String.intercalate ";" (before ++ after)))) ∧
        (¬ Cookie.Malformed segment.toList → ∃ cookie, inbound.Holds
          (Cookie.parse (String.intercalate ";" before) ++ cookie :: Cookie.parse (String.intercalate ";" after))) := by
  refine ⟨Cookie.parse_append, ?listed, ?undivided, fun before after segment absent =>
    ⟨parse_malformed absent, parse_formed absent, ?segments⟩⟩
  case listed =>
    intro context request inbound adapted
    have holds := holds_of_ofRequest adapted
    rwa [HeaderValue.text_joined, Cookie.parse_intercalate, List.flatMap_map] at holds
  case undivided =>
    rintro context request apart single values rfl one
    rw [cookies_ofRequest, cookies_ofRequest, one, HeaderValue.joined_singleton]
  case segments =>
    intro context request inbound adapted written
    have holds := holds_of_ofRequest adapted
    rw [written] at holds
    constructor
    · intro malformed
      rwa [parse_malformed absent malformed] at holds
    · intro formed
      obtain ⟨cookie, read⟩ := parse_formed absent formed
      exact ⟨cookie, read ▸ holds⟩

/-- The first value ends within a character, which the second one seems to go on with. -/
def cutValues : List HeaderValue :=
  [⟨[0x61, 0x3D, 0x31, 0x3B, 0x62, 0x3D, 0xC3], by decide⟩, ⟨[0xA9, 0x3D, 0x32, 0x3B, 0x61, 0x3D], by decide⟩]

def cutHeaders : HeaderMap :=
  ((HeaderMap.empty.append .cookie cutValues[0]).append .contentType ⟨[0x74, 0x2F, 0x70], by decide⟩).append .cookie
    cutValues[1]

def joinedHeaders : HeaderMap := HeaderMap.empty.append .cookie (HeaderValue.joined cutValues)

def cutRequest : Request := ⟨"GET", ⟨none, none, "/", none⟩, "HTTP/1.1", .empty, [], none⟩

theorem cut_undivided :
    cutHeaders.getAll .cookie = cutValues ∧ joinedHeaders.getAll .cookie = [HeaderValue.joined cutValues] ∧
      (ofRequest default { cutRequest with headers := joinedHeaders }).map cookies =
        (ofRequest default { cutRequest with headers := cutHeaders }).map cookies ∧
      (∃ inbound, ofRequest default { cutRequest with headers := cutHeaders } = .ok inbound ∧
        inbound.cookies.entries = [("a", [⟨"a", "1"⟩, ⟨"a", ""⟩]), ("b", [⟨"b", "\uFFFD"⟩])] ∧
        (HeaderValue.joined cutValues).text = "a=1;b=\uFFFD;\uFFFD=2;a=" ∧ Cookie.Malformed "\uFFFD=2".toList ∧
        inbound.Holds (Cookie.parse "a=1;b=\uFFFD;a=")) ∧
      ';' ∉ " junk".toList ∧ Cookie.Malformed " junk".toList ∧
      Cookie.parse (String.intercalate ";" ["a=1", " junk", "b=2"]) =
        Cookie.parse (String.intercalate ";" ["a=1", "b=2"]) ∧
      ';' ∉ " c = ".toList ∧ ¬ Cookie.Malformed " c = ".toList ∧
      ∃ cookie, Cookie.parse (String.intercalate ";" ["a=1", " c = ", "b=2"]) =
        Cookie.parse (String.intercalate ";" ["a=1"]) ++ cookie :: Cookie.parse (String.intercalate ";" ["b=2"]) := by
  obtain ⟨-, listed, undivided, segments⟩ := cookies_undivided
  have malformed : Cookie.Malformed " junk".toList := Cookie.ofSegment?_eq_none_iff.1 (by decide)
  have formed : ¬ Cookie.Malformed " c = ".toList := by
    rw [← Cookie.ofSegment?_eq_none_iff]
    decide
  have cut : cutHeaders.getAll .cookie = cutValues := by decide
  have single : joinedHeaders.getAll .cookie = [HeaderValue.joined cutValues] := by decide
  have read : cutValues.flatMap (fun value => Cookie.parse (Bytes.toTextLossy value.bytes)) =
      [⟨"a", "1"⟩, ⟨"b", "\uFFFD"⟩, ⟨"a", ""⟩] := by
    decide +kernel
  obtain ⟨inbound, adapted⟩ : ∃ inbound, ofRequest default { cutRequest with headers := cutHeaders } = .ok inbound :=
    ⟨_, rfl⟩
  have holds := listed _ _ _ adapted
  rw [cut, read] at holds
  have text : (HeaderValue.joined cutValues).text = "a=1;b=\uFFFD;\uFFFD=2;a=" := by decide +kernel
  have noName : Cookie.Malformed "\uFFFD=2".toList := Cookie.ofSegment?_eq_none_iff.1 (by decide)
  have without := ((segments ["a=1", "b=\uFFFD"] ["a="] "\uFFFD=2" (by decide)).2.2 default
    { cutRequest with headers := cutHeaders } inbound adapted (cut ▸ text)).1 noName
  refine ⟨cut, single, undivided default cutRequest cutHeaders joinedHeaders cutValues cut single,
    ⟨inbound, adapted, holds.entries_eq.trans (by decide), text, noName, without⟩, by decide, malformed,
    (segments ["a=1"] ["b=2"] " junk" (by decide)).1 malformed, by decide, formed, ?_⟩
  exact (segments ["a=1"] ["b=2"] " c = " (by decide)).2.1 formed

end Inbound

end Sluice
