import Mathlib.Data.List.Forall2
import Sluice.Proofs.Cookie.Encoding
import Sluice.Proofs.Text.Pieces

/-! The reading of cookies from a header. A header is read segment by segment, so that one which is joined from parts
gives what the parts give, and a malformed segment takes nothing but itself away. The pairs of cookies that were sent
are read as they were, whichever way their values are quoted. -/

set_option autoImplicit false

namespace Sluice

namespace Cookie

variable {name value segment : List Char}

/-- A name that a cookie is read under. -/
def IsName (name : List Char) : Prop :=
  name ≠ [] ∧ name.head? ≠ some '$' ∧ Ascii.AllTchar name

instance (name : List Char) : Decidable (IsName name) :=
  inferInstanceAs (Decidable (name ≠ [] ∧ name.head? ≠ some '$' ∧ Ascii.AllTchar name))

theorem dropped_iff :
    (name.isEmpty || name.head? == some '$' || !name.all Ascii.isTokenChar) = true ↔ ¬ IsName name := by
  have token : name.all Ascii.isTokenChar = true ↔ Ascii.AllTchar name := by
    simp only [List.all_eq_true, Ascii.isTokenChar_iff, Ascii.AllTchar]
  rw [Bool.or_eq_true, Bool.or_eq_true, Bool.not_eq_true', ← Bool.not_eq_true, token, List.isEmpty_iff, beq_iff_eq,
    IsName]
  grind

/-- The blanks around a segment are those before its name and those after its value. -/
theorem ofSegment?_cut (absent : '=' ∉ name) (value : List Char) :
    ofSegment? (name ++ '=' :: value) =
      if IsName (Text.trim name) then
        some ⟨String.ofList (Text.trim name), String.ofList (stripQuotes (Text.trim (Text.trimRight value)))⟩
      else none := by
  have inner : '=' ∉ Text.trimLeft name := fun member => absent (Text.mem_of_mem_trimLeft member)
  have cut : Text.splitOnce? '=' (Text.trim (name ++ '=' :: value)) =
      some (Text.trimLeft name, Text.trimRight value) :=
    Text.splitOnce?_eq_some_iff.2 ⟨Text.trim_append rfl name value, inner⟩
  rw [ofSegment?, cut]
  simp only [Text.trim_trimLeft, dropped_iff, ite_not]

theorem ofSegment?_of_not_mem (absent : '=' ∉ segment) : ofSegment? segment = none := by
  have inner : '=' ∉ Text.trim segment := fun member => absent (Text.mem_of_mem_trim member)
  simp [ofSegment?, Text.splitOnce?_eq_none_iff.2 inner]

theorem ofSegment?_cons {c : Char} (blank : Text.isBlank c = true) (segment : List Char) :
    ofSegment? (c :: segment) = ofSegment? segment := by
  rw [ofSegment?, Text.trim_cons blank, ofSegment?]

/-- A segment has no equals sign, or what stands before the first one is no name. -/
def Malformed (segment : List Char) : Prop :=
  ∀ name value, segment = name ++ '=' :: value → '=' ∉ name → ¬ IsName (Text.trim name)

theorem ofSegment?_eq_none_iff : ofSegment? segment = none ↔ Malformed segment := by
  cases cut : Text.splitOnce? '=' segment with
  | none =>
    have absent := Text.splitOnce?_eq_none_iff.1 cut
    refine iff_of_true (ofSegment?_of_not_mem absent) fun name value same => absurd ?_ absent
    simp [same]
  | some parts =>
    obtain ⟨name, value⟩ := parts
    obtain ⟨rfl, absent⟩ := Text.splitOnce?_eq_some_iff.1 cut
    rw [ofSegment?_cut absent]
    constructor
    · intro dropped other rest same otherAbsent named
      -- the first equals sign is in one place only
      rw [Text.splitOnce?_eq_some_iff.2 ⟨same, otherAbsent⟩, Option.some.injEq, Prod.mk.injEq] at cut
      simp [cut.1 ▸ named] at dropped
    · intro malformed
      simp [malformed name value rfl absent]

theorem parse_append (first second : String) : parse (first ++ ";" ++ second) = parse first ++ parse second := by
  have cut := Text.splitOn_append ';' first.toList second.toList
  simp [parse, cut]

end Cookie

namespace SetCookie

variable {cookie : SetCookie}

/-- Token characters and cookie octets are ASCII and not blank. -/
theorem solid_of_rules (b : UInt8) (kept : isTokenByte b || isCookieOctet b) :
    b.toNat < 0x80 ∧ Text.isBlank (Ascii.latin1 b) = false := by
  have each : ∀ n : Fin 256, isTokenByte (.ofFin n) || isCookieOctet (.ofFin n) →
      n.val < 0x80 ∧ Text.isBlank (Ascii.latin1 (.ofFin n)) = false := by decide +kernel
  exact each b.toFin kept

theorem Keeps.solid {rule : UInt8 → Bool} {text : List Char} (keeps : Keeps rule text)
    (strict : ∀ b, rule b = true → isTokenByte b || isCookieOctet b) : ∀ c ∈ text, Text.isBlank c = false := by
  intro c member
  obtain ⟨ascii, kept⟩ := Utf8.byte_of_encode (fun b kept => (solid_of_rules b (strict b kept)).1) keeps member
  simpa [Ascii.latin1_byte ascii] using (solid_of_rules _ (strict _ kept)).2

theorem Permitted.solid_name (permitted : cookie.Permitted) : ∀ c ∈ cookie.name.toList, Text.isBlank c = false :=
  permitted.name.solid fun b kept => by simp [kept]

theorem Permitted.solid_value (permitted : cookie.Permitted) : ∀ c ∈ cookie.value.toList, Text.isBlank c = false := by
  intro c member
  by_cases quote : c = '"'
  · subst quote
    rfl
  · have inner := Cookie.mem_stripQuotes member quote
    exact permitted.value.solid (fun b kept => by simp [kept]) c inner

theorem Permitted.token (permitted : cookie.Permitted) : Ascii.AllTchar cookie.name.toList := by
  intro c member
  obtain ⟨ascii, kept⟩ :=
    Utf8.byte_of_encode (fun b kept => (solid_of_rules b (by simp [kept])).1) permitted.name member
  rwa [isTokenByte, Ascii.latin1_byte ascii, Ascii.isTokenChar_iff] at kept

theorem Permitted.isName_iff (permitted : cookie.Permitted) :
    Cookie.IsName cookie.name.toList ↔ cookie.name.toList.head? ≠ some '$' := by
  rw [Cookie.IsName]
  exact ⟨fun named => named.2.1, fun plain => ⟨permitted.named, plain, permitted.token⟩⟩

theorem ofSegment?_pair (permitted : cookie.Permitted) :
    Cookie.ofSegment? cookie.pair.toList =
      if cookie.name.toList.head? ≠ some '$' then
        some ⟨cookie.name, String.ofList (Cookie.stripQuotes cookie.value.toList)⟩
      else none := by
  have spelled : cookie.pair.toList = cookie.name.toList ++ '=' :: cookie.value.toList := by simp [pair]
  have absent : '=' ∉ cookie.name.toList := permitted.name.not_mem (by decide) (by decide)
  rw [spelled, Cookie.ofSegment?_cut absent, Text.trim_eq_self permitted.solid_name,
    Text.trimRight_eq_self permitted.solid_value, Text.trim_eq_self permitted.solid_value, String.ofList_toList]
  simp only [permitted.isName_iff]

/-- The pairs of any number of cookies, joined, are read one by one. -/
theorem parse_pairs {cookies : List SetCookie} (permitted : ∀ cookie ∈ cookies, cookie.Permitted) :
    Cookie.parse (String.intercalate "; " (cookies.map pair)) =
      cookies.filterMap fun cookie => Cookie.ofSegment? cookie.pair.toList := by
  cases cookies with
  | nil => rfl
  | cons cookie others =>
    have absent : ∀ piece ∈ (cookie :: others).map (·.pair.toList), ';' ∉ piece := by
      intro piece member
      obtain ⟨sent, among, rfl⟩ := List.mem_map.1 member
      exact semicolon_not_mem_pair (permitted sent among)
    have pieces := Text.splitOn_intercalate_pair (by decide : ' ' ≠ ';') absent
    have separator : "; ".toList = [';', ' '] := rfl
    have blank (segment : List Char) : Cookie.ofSegment? (' ' :: segment) = Cookie.ofSegment? segment :=
      Cookie.ofSegment?_cons rfl segment
    -- after the first pair each segment begins with a blank
    rw [Cookie.parse, String.toList_intercalate, separator, List.map_map]
    refine (congrArg (List.filterMap Cookie.ofSegment?) pieces).trans ?_
    simp [List.filterMap_cons, List.filterMap_map, Function.comp_def, blank]

theorem filterMap_pairs {cookies : List SetCookie} (permitted : ∀ cookie ∈ cookies, cookie.Permitted) :
    (cookies.filterMap fun cookie => Cookie.ofSegment? cookie.pair.toList) =
      (cookies.filter (·.name.toList.head? ≠ some '$')).map fun cookie =>
        ⟨cookie.name, String.ofList (Cookie.stripQuotes cookie.value.toList)⟩ := by
  induction cookies with
  | nil => rfl
  | cons cookie others ih =>
    have rest := ih fun other member => permitted other (by simp [member])
    rw [List.filterMap_cons, ofSegment?_pair (permitted cookie (by simp)), rest, List.filter_cons]
    by_cases plain : cookie.name.toList.head? ≠ some '$'
    · simp [plain]
    · simp [plain]

/-- A cookie of a request has the name and the value of one that was sent, the latter out of its quotes. -/
structure Returns (sent : SetCookie) (read : Cookie) : Prop where
  name : read.name = sent.name
  value : Cookie.Unquotes sent.value.toList read.value.toList

/-- Cookies that were sent come back. From the pairs of accepted cookies, joined to one header, exactly the cookies
whose name does not begin with a dollar sign are read, in order. -/
theorem pairs_come_back {cookies : List SetCookie}
    (accepted : ∀ cookie ∈ cookies, ∃ now encoded, cookie.encode now = .ok encoded) :
    List.Forall₂ Returns (cookies.filter (·.name.toList.head? ≠ some '$'))
      (Cookie.parse (String.intercalate "; " (cookies.map fun cookie => cookie.name ++ "=" ++ cookie.value))) := by
  have permitted : ∀ cookie ∈ cookies, cookie.Permitted := by
    intro cookie member
    obtain ⟨now, encoded, encodes⟩ := accepted cookie member
    exact (encode_eq_ok_iff.1 encodes).1
  have read := (parse_pairs permitted).trans (filterMap_pairs permitted)
  change List.Forall₂ Returns _ (Cookie.parse (String.intercalate "; " (cookies.map pair)))
  rw [read, List.forall₂_map_right_iff, List.forall₂_same]
  intro cookie _
  have unquotes := Cookie.stripQuotes_unquotes cookie.value.toList
  exact ⟨rfl, by simpa using unquotes⟩

def batch : List SetCookie :=
  [⟨"a", "\"x=1\"", none, some "/", .seconds 60, true, false⟩, ⟨"$Version", "1", none, none, .session, false, false⟩,
    ⟨"b", "", some "example.com", none, .session, false, true⟩]

theorem batch_comes_back :
    (∀ cookie ∈ batch, ∃ now encoded, cookie.encode now = .ok encoded) ∧
    List.Forall₂ Returns
      [⟨"a", "\"x=1\"", none, some "/", .seconds 60, true, false⟩,
        ⟨"b", "", some "example.com", none, .session, false, true⟩]
      (Cookie.parse "a=\"x=1\"; $Version=1; b=") := by
  have accepted : ∀ cookie ∈ batch, ∃ now encoded, cookie.encode now = .ok encoded := by
    intro cookie member
    simp only [batch, List.mem_cons, List.not_mem_nil, or_false] at member
    rcases member with rfl | rfl | rfl
    · exact ⟨0, _, rfl⟩
    · exact ⟨0, _, rfl⟩
    · exact ⟨0, _, rfl⟩
  exact ⟨accepted, pairs_come_back accepted⟩

end SetCookie

end Sluice
