import Mathlib.Data.List.Basic
import Sluice.Cookie.SetCookie
import Sluice.Http.HeaderMap
import Sluice.Proofs.Text.Ascii
import Sluice.Proofs.Text.Pieces

/-! A cookie that passes its check is a header value once it is encoded, at any time. The rules for its parts leave
no byte that a header value may not hold, and neither do the lifetime and the date that are added. -/

set_option autoImplicit false

namespace Sluice

namespace HeaderValue

theorem isLegal_iff {b : UInt8} : isLegal b = true ↔ b.toNat = 9 ∨ 32 ≤ b.toNat ∧ b.toNat ≠ 127 := by
  simp [isLegal, UInt8.le_iff_toNat_le, ← UInt8.toNat_inj]

/-- A text of which every byte may stand in a header value. -/
def Admits (text : List Char) : Prop := ∀ b ∈ Utf8.encode text, b.toNat = 9 ∨ 32 ≤ b.toNat ∧ b.toNat ≠ 127

instance (text : List Char) : Decidable (Admits text) :=
  List.decidableBAll (fun b : UInt8 => b.toNat = 9 ∨ 32 ≤ b.toNat ∧ b.toNat ≠ 127) (Utf8.encode text)

theorem ofText?_isSome {text : String} (admits : Admits text.toList) : (ofText? text).isSome = true := by
  have legal : (Bytes.ofText text).all isLegal = true :=
    List.all_eq_true.2 fun b member => isLegal_iff.2 (admits b member)
  simp [ofText?, ofBytes?, legal]

theorem admits_append {first second : List Char} :
    Admits (first ++ second) ↔ Admits first ∧ Admits second := by
  simp [Admits, Utf8.encode, or_imp, forall_and]

theorem Admits.of_forall {text : List Char} (each : ∀ c ∈ text, Admits [c]) : Admits text := by
  intro b member
  obtain ⟨c, inside, encoded⟩ := List.mem_flatMap.1 member
  exact each c inside b (by simpa [Utf8.encode] using encoded)

theorem Admits.of_mem {text : List Char} (admits : Admits text) {c : Char} (member : c ∈ text) : Admits [c] := by
  intro b encoded
  exact admits b (List.mem_flatMap.2 ⟨c, member, by simpa [Utf8.encode] using encoded⟩)

theorem Admits.intercalate {separator : List Char} (between : Admits separator) {parts : List (List Char)}
    (each : ∀ part ∈ parts, Admits part) : Admits (separator.intercalate parts) := by
  refine .of_forall fun c member => ?_
  rcases Text.mem_intercalate member with separates | ⟨part, among, inside⟩
  · exact between.of_mem separates
  · exact (each part among).of_mem inside

end HeaderValue

namespace Calendar

/-- The characters of numbers and dates. -/
def isDateChar (c : Char) : Bool := Ascii.isDigit c || Ascii.isLetter c || " ,:+-".toList.contains c

def Dated (text : String) : Prop := ∀ c ∈ text.toList, isDateChar c = true

instance (text : String) : Decidable (Dated text) := List.decidableBAll (fun c => isDateChar c = true) text.toList

theorem isDateChar_iff {c : Char} : isDateChar c = true ↔ (48 ≤ c.toNat ∧ c.toNat ≤ 57) ∨
    (65 ≤ c.toNat ∧ c.toNat ≤ 90) ∨ (97 ≤ c.toNat ∧ c.toNat ≤ 122) ∨ c ∈ " ,:+-".toList := by
  simp only [isDateChar, Ascii.isLetter, Bool.or_eq_true, Ascii.isDigit_iff, Ascii.isUpper_iff, Ascii.isLower_iff,
    List.contains_iff_mem, or_assoc]

theorem dated_append {first second : String} : Dated (first ++ second) ↔ Dated first ∧ Dated second := by
  simp [Dated, or_imp, forall_and]

theorem dated_nat (n : Nat) : Dated (toString n) := by
  intro c member
  rw [Nat.toString_eq_ofList_toDigits, String.toList_ofList] at member
  have digit : c.isDigit = true := Nat.isDigit_of_mem_toDigits (by decide) (by decide) member
  simp only [Char.isDigit, Bool.and_eq_true, decide_eq_true_eq, UInt32.le_iff_toNat_le] at digit
  rw [isDateChar_iff]
  exact .inl digit

theorem dated_padLeft (width : Nat) {text : String} (dated : Dated text) : Dated (padLeft width text) := by
  rw [padLeft, dated_append]
  refine ⟨fun c member => ?_, dated⟩
  rw [String.toList_ofList] at member
  obtain ⟨-, rfl⟩ := List.mem_replicate.1 member
  rfl

theorem dated_yearText (year : Int) : Dated (yearText year) := by
  unfold yearText
  split
  · exact dated_append.2 ⟨by decide, dated_padLeft 4 (dated_nat _)⟩
  · split
    · exact dated_padLeft 4 (dated_nat _)
    · exact dated_append.2 ⟨by decide, dated_nat _⟩

theorem dated_getD {texts : List String} (each : ∀ text ∈ texts, Dated text) (index : Nat) :
    Dated (texts.getD index "") := by
  rw [List.getD_eq_getElem?_getD]
  cases found : texts[index]? with
  | none => exact nofun
  | some text => exact each text (List.mem_of_getElem? found)

theorem dated_httpDate (instant : Instant) : Dated (httpDate instant) := by
  have weekday : ∀ index, Dated (weekdays.getD index "") := dated_getD (by decide)
  have month : ∀ index, Dated (months.getD index "") := dated_getD (by decide)
  have two : ∀ n : Nat, Dated (padLeft 2 (toString n)) := fun n => dated_padLeft 2 (dated_nat n)
  simp only [httpDate, dated_append, weekday, month, two, dated_yearText, true_and, and_true]
  decide

theorem Dated.admits {text : String} (dated : Dated text) : HeaderValue.Admits text.toList := by
  refine .of_forall fun c member b alone => ?_
  have range := isDateChar_iff.1 (dated c member)
  have ascii : 32 ≤ c.toNat ∧ c.toNat < 127 := by
    rcases range with digit | upper | lower | mark
    · omega
    · omega
    · omega
    · have named : c = ' ' ∨ c = ',' ∨ c = ':' ∨ c = '+' ∨ c = '-' := by simpa using mark
      rcases named with rfl | rfl | rfl | rfl | rfl <;> decide
  obtain rfl : b = Utf8.byte c.toNat := by
    have small : c.toNat < 0x80 := by omega
    simpa [Utf8.encode, Utf8.encodeChar_of_ascii small] using alone
  rw [Utf8.toNat_byte (by omega)]
  omega

end Calendar

namespace Cookie

open HeaderValue

/-- What is inside one pair of double quotes around a text; a text without such a pair is its own inside. -/
def Unquotes (text inner : List Char) : Prop :=
  text = '"' :: (inner ++ ['"']) ∨ text = inner ∧ ∀ other, text ≠ '"' :: (other ++ ['"'])

theorem stripQuotes_unquotes (text : List Char) : Unquotes text (stripQuotes text) := by
  unfold stripQuotes
  split
  · next rest =>
    split
    · next closes =>
      have last : rest.getLast? = some '"' := by simpa using closes
      obtain ⟨inner, rfl⟩ := List.getLast?_eq_some_iff.1 last
      left
      rw [List.dropLast_concat]
    · next opens =>
      refine .inr ⟨rfl, fun other same => opens ?_⟩
      obtain rfl : rest = other ++ ['"'] := List.tail_eq_of_cons_eq same
      simp
  · next plain =>
    exact .inr ⟨rfl, fun other same => plain _ same⟩

/-- Taking quotes off takes nothing else off. -/
theorem mem_stripQuotes {text : List Char} {c : Char} (member : c ∈ text) (other : c ≠ '"') : c ∈ stripQuotes text := by
  rcases stripQuotes_unquotes text with quoted | ⟨same, -⟩
  · rw [quoted] at member
    simpa [other] using member
  · exact same ▸ member

/-- Taking quotes off hides no illegal byte. -/
theorem admits_of_stripQuotes {text : List Char} (admits : Admits (stripQuotes text)) : Admits text := by
  rcases stripQuotes_unquotes text with quoted | ⟨same, -⟩
  · have whole : Admits (['"'] ++ stripQuotes text ++ ['"']) :=
      admits_append.2 ⟨admits_append.2 ⟨by decide, admits⟩, by decide⟩
    rw [quoted]
    exact whole
  · exact same ▸ admits

end Cookie

namespace SetCookie

open HeaderValue

/-- The rules for the parts of a cookie are all stricter than the one for header values. -/
theorem legal_of_rules (b : UInt8) (kept : isTokenByte b || isCookieOctet b || isAttributeByte b) :
    b.toNat = 9 ∨ 32 ≤ b.toNat ∧ b.toNat ≠ 127 := by
  -- three tables of bytes against a fourth: all 256 are gone through
  have each : ∀ n : Fin 256, isTokenByte (.ofFin n) || isCookieOctet (.ofFin n) || isAttributeByte (.ofFin n) →
      isLegal (.ofFin n) = true := by decide +kernel
  exact isLegal_iff.1 (each b.toFin kept)

/-- Every byte of a text keeps to a rule. -/
def Keeps (rule : UInt8 → Bool) (text : List Char) : Prop := ∀ b ∈ Utf8.encode text, rule b = true

theorem checkPart_eq_ok_iff {part : Part} {rule : UInt8 → Bool} {text : List Char} :
    checkPart part rule text = .ok () ↔ Keeps rule text := by
  unfold checkPart
  cases found : (Utf8.encode text).find? (!rule ·) with
  | none => simpa [Keeps] using List.find?_eq_none.1 found
  | some byte =>
    have broken := List.find?_some found
    have inside := List.mem_of_find?_eq_some found
    simp only [reduceCtorEq, false_iff]
    intro keeps
    simp [keeps byte inside] at broken

theorem checkAttribute_eq_ok_iff {part : Part} {value : Option String} :
    checkAttribute part value = .ok () ↔ ∀ text ∈ value, Keeps isAttributeByte text.toList := by
  cases value <;> simp [checkAttribute, checkPart_eq_ok_iff]

/-- A cookie of which every part keeps to its rule. -/
structure Permitted (cookie : SetCookie) : Prop where
  named : cookie.name.toList ≠ []
  name : Keeps isTokenByte cookie.name.toList
  value : Keeps isCookieOctet (Cookie.stripQuotes cookie.value.toList)
  path : ∀ text ∈ cookie.path, Keeps isAttributeByte text.toList
  domain : ∀ text ∈ cookie.domain, Keeps isAttributeByte text.toList

theorem bind_eq_ok_iff {ε : Type} {first second : Except ε Unit} :
    (first >>= fun _ => second) = .ok () ↔ first = .ok () ∧ second = .ok () := by
  cases first <;> simp [bind, Except.bind]

theorem check_eq_ok_iff {cookie : SetCookie} : cookie.check = .ok () ↔ cookie.Permitted := by
  have parts : cookie.check = .ok () ↔ cookie.name.toList ≠ [] ∧ Keeps isTokenByte cookie.name.toList ∧
      Keeps isCookieOctet (Cookie.stripQuotes cookie.value.toList) ∧
      (∀ text ∈ cookie.path, Keeps isAttributeByte text.toList) ∧
      ∀ text ∈ cookie.domain, Keeps isAttributeByte text.toList := by
    unfold check
    split
    · simp_all [bind, Except.bind]
    · simp_all [bind_eq_ok_iff, checkPart_eq_ok_iff, checkAttribute_eq_ok_iff]
  rw [parts]
  constructor
  · rintro ⟨named, name, value, path, domain⟩
    exact ⟨named, name, value, path, domain⟩
  · rintro ⟨named, name, value, path, domain⟩
    exact ⟨named, name, value, path, domain⟩

theorem admits_lifetimeAttributes (now : Instant) (lifetime : Lifetime) :
    ∀ segment ∈ lifetimeAttributes now lifetime, Admits segment.toList := by
  intro segment member
  cases lifetime with
  | session => cases member
  | seconds count =>
    rw [lifetimeAttributes, List.mem_cons] at member
    rcases member with rfl | member
    · rw [String.toList_append, admits_append]
      exact ⟨by decide, (Calendar.dated_nat count).admits⟩
    · cases later : Calendar.later? now count with
      | none => simp [later] at member
      | some instant =>
        obtain rfl : segment = "Expires=" ++ Calendar.httpDate instant := by simpa [later] using member
        rw [String.toList_append, admits_append]
        exact ⟨by decide, (Calendar.dated_httpDate instant).admits⟩

/-- The parts of a cookie in the form of header values. -/
structure Legible (cookie : SetCookie) : Prop where
  name : Admits cookie.name.toList
  value : Admits cookie.value.toList
  path : ∀ text ∈ cookie.path, Admits text.toList
  domain : ∀ text ∈ cookie.domain, Admits text.toList

/-- An ASCII character that breaks a rule is in no text that keeps to it. -/
theorem Keeps.not_mem {rule : UInt8 → Bool} {text : List Char} (keeps : Keeps rule text) {c : Char}
    (ascii : c.toNat < 0x80) (breaks : rule (Utf8.byte c.toNat) = false) : c ∉ text := by
  intro member
  have kept := keeps _ (Utf8.byte_mem_encode member ascii)
  simp [breaks] at kept

theorem semicolon_not_mem_value {cookie : SetCookie} (permitted : cookie.Permitted) : ';' ∉ cookie.value.toList := by
  have inner : ';' ∉ Cookie.stripQuotes cookie.value.toList := permitted.value.not_mem (by decide) (by decide)
  exact fun member => inner (Cookie.mem_stripQuotes member (by decide))

theorem semicolon_not_mem_pair {cookie : SetCookie} (permitted : cookie.Permitted) : ';' ∉ cookie.pair.toList := by
  have name : ';' ∉ cookie.name.toList := permitted.name.not_mem (by decide) (by decide)
  simp [pair, name, semicolon_not_mem_value permitted]

theorem Permitted.legible {cookie : SetCookie} (permitted : cookie.Permitted) : cookie.Legible where
  name b member := legal_of_rules b (by simp [permitted.name b member])
  value := Cookie.admits_of_stripQuotes fun b member => legal_of_rules b (by simp [permitted.value b member])
  path text given b member := legal_of_rules b (by simp [permitted.path text given b member])
  domain text given b member := legal_of_rules b (by simp [permitted.domain text given b member])

theorem Legible.segments {cookie : SetCookie} (legible : cookie.Legible) (now : Instant) :
    ∀ segment ∈ cookie.segments now, Admits segment.toList := by
  intro segment member
  simp only [SetCookie.segments, List.mem_append, List.mem_cons] at member
  rcases member with ((((rfl | lifetime) | path) | domain) | secure) | httpOnly
  · simp only [pair, String.toList_append, admits_append]
    exact ⟨⟨legible.name, by decide⟩, legible.value⟩
  · exact admits_lifetimeAttributes now cookie.lifetime segment lifetime
  · obtain ⟨text, given, rfl⟩ : ∃ text ∈ cookie.path, "Path=" ++ text = segment := by simpa using path
    rw [String.toList_append, admits_append]
    exact ⟨by decide, legible.path text given⟩
  · obtain ⟨text, given, rfl⟩ : ∃ text ∈ cookie.domain, "Domain=" ++ text = segment := by simpa using domain
    rw [String.toList_append, admits_append]
    exact ⟨by decide, legible.domain text given⟩
  · split at secure
    · obtain rfl : segment = "Secure" := by simpa using secure
      decide
    · cases secure
  · split at httpOnly
    · obtain rfl : segment = "HttpOnly" := by simpa using httpOnly
      decide
    · cases httpOnly

theorem encode_eq_ok_iff {cookie : SetCookie} {now : Instant} {encoded : String} :
    cookie.encode now = .ok encoded ↔ cookie.Permitted ∧ encoded = String.intercalate "; " (cookie.segments now) := by
  rw [← check_eq_ok_iff, encode]
  cases checked : cookie.check <;> simp [eq_comm]

/-- The encoder fails exactly if the check does, and what it encodes is a header value. -/
theorem encode_ok {cookie : SetCookie} (passed : cookie.check = .ok ()) (now : Instant) :
    ∃ encoded, cookie.encode now = .ok encoded ∧ (HeaderValue.ofText? encoded).isSome = true := by
  refine ⟨String.intercalate "; " (cookie.segments now), by simp [encode, passed], ofText?_isSome ?_⟩
  rw [String.toList_intercalate]
  refine Admits.intercalate (by decide) fun part among => ?_
  obtain ⟨segment, member, rfl⟩ := List.mem_map.1 among
  exact (check_eq_ok_iff.1 passed).legible.segments now segment member

theorem encode_error {cookie : SetCookie} {defect : Defect} (failed : cookie.check = .error defect) (now : Instant) :
    cookie.encode now = .error (.cookieEncoding cookie.name defect.reason) := by
  simp [encode, failed]

end SetCookie

end Sluice
