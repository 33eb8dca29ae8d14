import Sluice.Proofs.Cookie.Encoding
import Sluice.Proofs.Text.Ascii
import Sluice.Proofs.Text.Pieces

/-! An encoded cookie cut up at its semicolons. The pair comes first, and each further piece is one attribute that was
set, in a fixed order and with its text as given. So an attribute is read as what it was set to, whatever the other
parts of the cookie say, and an encoding determines its cookie. -/

set_option autoImplicit false

namespace Sluice.SetCookie

variable {cookie other : SetCookie} {now : Instant} {encoded : String}

inductive Attribute where
  | maxAge | expires | path | domain | secure | httpOnly
  deriving DecidableEq, Repr

namespace Attribute

/-- The attributes in the order in which they are written. -/
def all : List Attribute := [.maxAge, .expires, .path, .domain, .secure, .httpOnly]

def name : Attribute → String
  | .maxAge => "Max-Age"
  | .expires => "Expires"
  | .path => "Path"
  | .domain => "Domain"
  | .secure => "Secure"
  | .httpOnly => "HttpOnly"

/-- What a cookie sets an attribute to. The text of a flag is empty. -/
def setting (now : Instant) (cookie : SetCookie) : Attribute → Option String
  | .maxAge =>
    match cookie.lifetime with
    | .session => none
    | .seconds count => some (toString count)
  | .expires =>
    match cookie.lifetime with
    | .session => none
    | .seconds count => (Calendar.later? now count).map Calendar.httpDate
  | .path => cookie.path
  | .domain => cookie.domain
  | .secure => if cookie.secure then some "" else none
  | .httpOnly => if cookie.httpOnly then some "" else none

def isFlag : Attribute → Bool
  | .secure | .httpOnly => true
  | _ => false

def segment (kind : Attribute) (text : String) : String :=
  if kind.isFlag then kind.name else kind.name ++ "=" ++ text

/-- Reads a piece as an attribute of a given name: the name stands before the first equals sign, between blanks and in
any case. -/
def read? (name : String) (piece : List Char) : Option String :=
  let (found, text) := (Text.splitOnce? '=' piece).getD (piece, [])
  if Ascii.sameText (Text.trim found) name.toList then some (String.ofList text) else none

/-- All that an encoded cookie gives for a name of an attribute. -/
def occurrences (encoded name : String) : List String :=
  (Text.splitOn ';' encoded.toList).tail.filterMap (read? name)

theorem sameText_name (first second : Attribute) :
    Ascii.sameText (Text.trim (' ' :: first.name.toList)) second.name.toList = decide (first = second) := by
  cases first <;> cases second <;> decide

theorem equals_not_mem_name (kind : Attribute) : '=' ∉ ' ' :: kind.name.toList := by
  cases kind <;> decide

theorem setting_of_isFlag {kind : Attribute} (flag : kind.isFlag = true) {text : String}
    (set : kind.setting now cookie = some text) : text = "" := by
  cases kind <;> simp_all [isFlag, setting]

theorem read?_segment {written : Attribute} {text : String} (set : written.setting now cookie = some text)
    (sought : Attribute) :
    read? sought.name (' ' :: (written.segment text).toList) = if written = sought then some text else none := by
  cases flag : written.isFlag with
  | false =>
    have cut : Text.splitOnce? '=' (' ' :: (written.segment text).toList) =
        some (' ' :: written.name.toList, text.toList) := by
      rw [Text.splitOnce?_eq_some_iff]
      exact ⟨by simp [segment, flag], equals_not_mem_name written⟩
    simp [read?, cut, sameText_name]
  | true =>
    -- a flag has no equals sign, so its name is all of the piece
    obtain rfl := setting_of_isFlag flag set
    have alone : written.segment "" = written.name := by simp [segment, flag]
    have whole : Text.splitOnce? '=' (' ' :: written.name.toList) = none :=
      Text.splitOnce?_eq_none_iff.2 (equals_not_mem_name written)
    simp [read?, alone, whole, sameText_name]

theorem filterMap_all {α : Type} (part : Attribute → Option α) :
    all.filterMap part = (part .maxAge).toList ++ (part .expires).toList ++ (part .path).toList ++
      (part .domain).toList ++ (part .secure).toList ++ (part .httpOnly).toList := by
  simp [List.filterMap_eq_flatMap_toList, all]

/-- Of the settings of all attributes only that of the one sought is found. -/
theorem filterMap_sought (settings : Attribute → Option String) (sought : Attribute) :
    (all.filterMap fun written => (settings written).bind fun text => if written = sought then some text else none) =
      (settings sought).toList := by
  rw [filterMap_all]
  cases sought <;> simp

end Attribute

theorem lifetimeAttributes_eq (cookie : SetCookie) (now : Instant) :
    lifetimeAttributes now cookie.lifetime =
      ((Attribute.maxAge.setting now cookie).map Attribute.maxAge.segment).toList ++
        ((Attribute.expires.setting now cookie).map Attribute.expires.segment).toList := by
  cases lasts : cookie.lifetime with
  | session => simp [lifetimeAttributes, Attribute.setting, lasts]
  | seconds count =>
    cases ends : Calendar.later? now count <;>
      simp [lifetimeAttributes, Attribute.setting, lasts, ends, Attribute.segment, Attribute.isFlag, Attribute.name]

theorem Attribute.segment_of_isFlag {kind : Attribute} (flag : kind.isFlag = true) (set : Bool) :
    ((if set then some "" else none).map kind.segment).toList = if set then [kind.name] else [] := by
  cases set <;> simp [segment, flag]

/-- The segments that are written are the pair and the attributes that are set. -/
theorem segments_eq (cookie : SetCookie) (now : Instant) :
    cookie.segments now = cookie.pair ::
      Attribute.all.filterMap fun kind => (kind.setting now cookie).map kind.segment := by
  have secure := Attribute.segment_of_isFlag (rfl : Attribute.secure.isFlag = true) cookie.secure
  have httpOnly := Attribute.segment_of_isFlag (rfl : Attribute.httpOnly.isFlag = true) cookie.httpOnly
  rw [Attribute.filterMap_all, ← lifetimeAttributes_eq]
  simp only [Attribute.setting, secure, httpOnly]
  rfl

/-! No part of a cookie that is permitted holds a semicolon. -/

theorem Attribute.semicolon_not_mem_setting (permitted : cookie.Permitted) {kind : Attribute} {text : String}
    (set : kind.setting now cookie = some text) : ';' ∉ text.toList := by
  have dated : ∀ {text : String}, Calendar.Dated text → ';' ∉ text.toList :=
    fun dated member => absurd (dated ';' member) (by decide)
  cases kind with
  | maxAge =>
    cases lasts : cookie.lifetime <;> simp only [setting, lasts, reduceCtorEq, Option.some.injEq] at set
    exact set ▸ dated (Calendar.dated_nat _)
  | expires =>
    cases lasts : cookie.lifetime <;> simp only [setting, lasts, reduceCtorEq, Option.map_eq_some_iff] at set
    obtain ⟨instant, -, rfl⟩ := set
    exact dated (Calendar.dated_httpDate instant)
  | path => exact (permitted.path text set).not_mem (by decide) (by decide)
  | domain => exact (permitted.domain text set).not_mem (by decide) (by decide)
  | secure => simp [setting_of_isFlag rfl set]
  | httpOnly => simp [setting_of_isFlag rfl set]

theorem Attribute.semicolon_not_mem_segment {kind : Attribute} {text : String} (absent : ';' ∉ text.toList) :
    ';' ∉ (kind.segment text).toList := by
  have name : ';' ∉ kind.name.toList := by cases kind <;> decide
  unfold segment
  split
  · exact name
  · simp [name, absent]

theorem splitOn_encoded (permitted : cookie.Permitted) (now : Instant) :
    Text.splitOn ';' (String.intercalate "; " (cookie.segments now)).toList =
      cookie.pair.toList :: (Attribute.all.filterMap fun kind =>
        (kind.setting now cookie).map fun text => ' ' :: (kind.segment text).toList) := by
  have separator : "; ".toList = [';', ' '] := rfl
  rw [String.toList_intercalate, separator, segments_eq, List.map_cons]
  refine (Text.splitOn_intercalate_pair (by decide) fun piece member => ?_).trans ?_
  · rcases List.mem_cons.1 member with rfl | later
    · exact semicolon_not_mem_pair permitted
    · obtain ⟨segment, among, rfl⟩ := List.mem_map.1 later
      obtain ⟨kind, -, written⟩ := List.mem_filterMap.1 among
      obtain ⟨text, set, rfl⟩ := Option.map_eq_some_iff.1 written
      exact Attribute.semicolon_not_mem_segment (Attribute.semicolon_not_mem_setting permitted set)
  · simp [List.map_filterMap, Function.comp_def]

/-- What is found for an attribute is what the cookie sets it to. -/
theorem occurrences_encoded (permitted : cookie.Permitted) (now : Instant) (sought : Attribute) :
    Attribute.occurrences (String.intercalate "; " (cookie.segments now)) sought.name =
      (sought.setting now cookie).toList := by
  rw [Attribute.occurrences, splitOn_encoded permitted, List.tail_cons, List.filterMap_filterMap]
  rw [← Attribute.filterMap_sought (Attribute.setting now cookie)]
  congr 1
  funext written
  cases set : written.setting now cookie with
  | none => rfl
  | some text => exact Attribute.read?_segment set sought

theorem cut_pair (permitted : cookie.Permitted) :
    Text.splitOnce? '=' cookie.pair.toList = some (cookie.name.toList, cookie.value.toList) := by
  have name : '=' ∉ cookie.name.toList := permitted.name.not_mem (by decide) (by decide)
  rw [Text.splitOnce?_eq_some_iff]
  exact ⟨by simp [pair], name⟩

theorem toString_inj {first second : Nat} (same : toString first = toString second) : first = second := by
  rw [Nat.toString_eq_ofList_toDigits, Nat.toString_eq_ofList_toDigits, String.ofList_inj] at same
  have value (n : Nat) : Nat.ofDigitChars 10 (Nat.toDigits 10 n) 0 = n :=
    Nat.ofDigitChars_toDigits (by decide) (by decide)
  rw [← value first, same, value second]

theorem lifetime_eq_of_setting (same : Attribute.maxAge.setting now cookie = Attribute.maxAge.setting now other) :
    cookie.lifetime = other.lifetime := by
  simp only [Attribute.setting] at same
  cases first : cookie.lifetime with
  | session =>
    cases second : other.lifetime with
    | session => rfl
    | seconds count => simp [first, second] at same
  | seconds count =>
    cases second : other.lifetime with
    | session => simp [first, second] at same
    | seconds otherCount =>
      simp only [first, second, Option.some.injEq] at same
      rw [toString_inj same]

theorem flag_eq_of_setting {first second : Bool}
    (same : (if first then some "" else none) = if second then some "" else none) : first = second := by
  cases first <;> cases second <;> simp_all

/-- Nothing of a cookie is left open by its pair and its attributes. -/
theorem eq_of_settings (now : Instant) (first : cookie.Permitted) (second : other.Permitted) (pairs : cookie.pair = other.pair)
    (settings : ∀ kind : Attribute, kind.setting now cookie = kind.setting now other) : cookie = other := by
  have cut := cut_pair first
  rw [pairs, cut_pair second, Option.some.injEq, Prod.mk.injEq, String.toList_inj, String.toList_inj] at cut
  have path : cookie.path = other.path := settings .path
  have domain : cookie.domain = other.domain := settings .domain
  have lifetime := lifetime_eq_of_setting (settings .maxAge)
  have secure := flag_eq_of_setting (settings .secure)
  have httpOnly := flag_eq_of_setting (settings .httpOnly)
  cases cookie
  cases other
  simp_all

theorem eq_of_encode_eq (first : cookie.encode now = .ok encoded) (second : other.encode now = .ok encoded) :
    cookie = other := by
  obtain ⟨permitted, rfl⟩ := encode_eq_ok_iff.1 first
  obtain ⟨permitted', same⟩ := encode_eq_ok_iff.1 second
  have pieces := splitOn_encoded permitted now
  rw [same, splitOn_encoded permitted' now, List.cons.injEq, String.toList_inj] at pieces
  refine eq_of_settings now permitted permitted' pieces.1.symm fun kind => ?_
  have found := occurrences_encoded permitted now kind
  rw [same, occurrences_encoded permitted' now kind] at found
  simpa using congrArg List.head? found.symm

/-- An encoded cookie is read back in one way only. At semicolons it falls into the pair and one piece for each attribute
that is set, in order and with its text as given; each attribute is found as often, and with the text, as the cookie
sets it, so that no other part of the cookie adds, removes or changes it; and no other cookie is encoded to the same. -/
theorem encode_unambiguous {earlier : Instant} {text : String} (accepted : cookie.encode earlier = .ok text)
    (now : Instant) :
    ∃ encoded, cookie.encode now = .ok encoded ∧
      (Text.splitOn ';' encoded.toList).map String.ofList = (cookie.name ++ "=" ++ cookie.value) ::
        (Attribute.all.filterMap fun kind => (kind.setting now cookie).map fun text => " " ++ kind.segment text) ∧
      (∀ kind : Attribute, Attribute.occurrences encoded kind.name = (kind.setting now cookie).toList) ∧
      ∀ other : SetCookie, other.encode now = .ok encoded → other = cookie := by
  have permitted := (encode_eq_ok_iff.1 accepted).1
  have encodes : cookie.encode now = .ok (String.intercalate "; " (cookie.segments now)) :=
    encode_eq_ok_iff.2 ⟨permitted, rfl⟩
  refine ⟨_, encodes, ?_, occurrences_encoded permitted now, fun other same => eq_of_encode_eq same encodes⟩
  rw [splitOn_encoded permitted, List.map_cons, String.ofList_toList, List.map_filterMap]
  have piece (kind : Attribute) (text : String) :
      String.ofList (' ' :: (kind.segment text).toList) = " " ++ kind.segment text := by
    rw [← String.toList_inj]
    simp
  simp [piece, pair, Function.comp_def]

def hostile : SetCookie :=
  ⟨"a", "\"b=c\"", some "", some "/ Secure=1, Max-Age=0", .seconds 60, true, false⟩

theorem hostile_unambiguous :
    hostile.encode 0 = .ok ("a=\"b=c\"; Max-Age=60; Expires=Thu, 01 Jan 1970 00:01:00 GMT; " ++
      "Path=/ Secure=1, Max-Age=0; Domain=; HttpOnly") ∧
    ∃ encoded, hostile.encode 100000 = .ok encoded ∧
      (Text.splitOn ';' encoded.toList).map String.ofList =
        ["a=\"b=c\"", " Max-Age=60", " Expires=Fri, 02 Jan 1970 03:47:40 GMT", " Path=/ Secure=1, Max-Age=0",
          " Domain=", " HttpOnly"] ∧
      Attribute.occurrences encoded "Max-Age" = ["60"] ∧ Attribute.occurrences encoded "Secure" = [] ∧
      ∀ other : SetCookie, other.encode 100000 = .ok encoded → other = hostile := by
  have accepted : hostile.encode 0 = .ok ("a=\"b=c\"; Max-Age=60; Expires=Thu, 01 Jan 1970 00:01:00 GMT; " ++
      "Path=/ Secure=1, Max-Age=0; Domain=; HttpOnly") := by decide +kernel
  obtain ⟨encoded, encodes, pieces, found, unique⟩ := encode_unambiguous accepted 100000
  exact ⟨accepted, encoded, encodes, pieces.trans (by decide +kernel), found .maxAge, found .secure, unique⟩

end Sluice.SetCookie
