import Sluice.Proofs.Cookie.Lifetime
import Sluice.Proofs.Headers.Translation
import Sluice.Proofs.Text.Breach

/-! The cookies that are encoded, told by the grammar of their parts. The check looks at bytes, and at a value without
the quotes around it; a cookie passes it exactly if its parts are of the grammar, character by character. One that
fails is refused for the first byte that breaks a rule, part after part. -/

set_option autoImplicit false

namespace Sluice

/-- The part of a text between two offsets in bytes. There is none if an offset falls inside a character. -/
def Text.IsSlice (text : List Char) (start stop : Nat) (part : List Char) : Prop :=
  ∃ before after, text = before ++ part ++ after ∧ (Utf8.encode before).length = start ∧
    (Utf8.encode (before ++ part)).length = stop

namespace Ascii

theorem toNat_latin1 (b : UInt8) : (latin1 b).toNat = b.toNat := by
  have size : b.toNat < 0x100 := b.toNat_lt
  exact Utf8.toNat_ofNat (by omega)

end Ascii

namespace Cookie

theorem Unquotes.unique {text inner other : List Char} (first : Unquotes text inner) (second : Unquotes text other) :
    inner = other := by
  rcases first with quoted | ⟨same, plain⟩
  · rcases second with spelled | ⟨-, bare⟩
    · rw [quoted] at spelled
      exact List.append_cancel_right (List.tail_eq_of_cons_eq spelled)
    · exact absurd quoted (bare inner)
  · rcases second with spelled | ⟨equal, -⟩
    · exact absurd spelled (plain other)
    · exact same.symm.trans equal

/-- A text of two bytes or more that begins and ends with a double quote. -/
def Quoted (text : List Char) : Prop :=
  2 ≤ (Utf8.encode text).length ∧ text.head? = some '"' ∧ text.getLast? = some '"'

instance (text : List Char) : Decidable (Quoted text) := inferInstanceAs (Decidable (_ ∧ _ ∧ _))

theorem length_encode_quoted (inner : List Char) :
    (Utf8.encode ('"' :: (inner ++ ['"']))).length = (Utf8.encode inner).length + 2 := by
  have quote : (Utf8.encode ['"']).length = 1 := rfl
  rw [Utf8.encode_cons_of_ascii (by decide), Utf8.encode_append, List.length_cons, List.length_append, quote]

theorem quoted_iff {text : List Char} : Quoted text ↔ ∃ inner, text = '"' :: (inner ++ ['"']) := by
  constructor
  · rintro ⟨two, opens, closes⟩
    obtain ⟨rest, rfl⟩ := List.head?_eq_some_iff.1 opens
    rcases List.eq_nil_or_concat' rest with rfl | ⟨inner, last, rfl⟩
    · exact absurd two (by decide)
    · rw [← List.cons_append, List.getLast?_concat] at closes
      obtain rfl := Option.some.inj closes
      exact ⟨inner, rfl⟩
  · rintro ⟨inner, rfl⟩
    refine ⟨?_, rfl, ?_⟩
    · rw [length_encode_quoted]
      exact Nat.le_add_left 2 _
    · rw [← List.cons_append, List.getLast?_concat]

theorem stripQuotes_slice (text : List Char) :
    if Quoted text then
      ∃ stop, stop + 1 = (Utf8.encode text).length ∧ Text.IsSlice text 1 stop (stripQuotes text)
    else stripQuotes text = text := by
  rcases stripQuotes_unquotes text with quoted | ⟨same, plain⟩
  · rw [if_pos (quoted_iff.2 ⟨_, quoted⟩)]
    refine ⟨(Utf8.encode (stripQuotes text)).length + 1, ?_, ['"'], ['"'], quoted, rfl, ?_⟩
    · have length := length_encode_quoted (stripQuotes text)
      rw [← quoted] at length
      exact length.symm
    · rw [List.singleton_append, Utf8.encode_cons_of_ascii (by decide), List.length_cons]
  · have bare : ¬ Quoted text := by
      rw [quoted_iff]
      exact fun ⟨inner, spelled⟩ => plain inner spelled
    rw [if_neg bare]
    exact same.symm

end Cookie

namespace SetCookie

/-- The characters of a value by RFC 6265: visible ASCII without quote, comma, semicolon and backslash. -/
def IsOctet (c : Char) : Prop :=
  c.toNat = 0x21 ∨ 0x23 ≤ c.toNat ∧ c.toNat ≤ 0x2B ∨ 0x2D ≤ c.toNat ∧ c.toNat ≤ 0x3A ∨
    0x3C ≤ c.toNat ∧ c.toNat ≤ 0x5B ∨ 0x5D ≤ c.toNat ∧ c.toNat ≤ 0x7E

def IsValue (text : List Char) : Prop :=
  (∀ c ∈ text, IsOctet c) ∨ ∃ inner, text = '"' :: (inner ++ ['"']) ∧ ∀ c ∈ inner, IsOctet c

/-- The characters of a path and a domain. -/
def IsBare (c : Char) : Prop := c ≠ ';' ∧ ¬ (c.toNat < 0x20 ∨ c.toNat = 0x7F)

structure Grammatical (cookie : SetCookie) : Prop where
  name : HeaderName.IsToken cookie.name
  value : IsValue cookie.value.toList
  path : ∀ text ∈ cookie.path, ∀ c ∈ text.toList, IsBare c
  domain : ∀ text ∈ cookie.domain, ∀ c ∈ text.toList, IsBare c

variable {text : List Char} {c : Char} {cookie : SetCookie}

theorem isBare_iff : IsBare c ↔ c.toNat ≠ 0x3B ∧ ¬ (c.toNat < 0x20 ∨ c.toNat = 0x7F) := by
  have semicolon : c ≠ ';' ↔ c.toNat ≠ 0x3B := Char.toNat_inj.symm.not
  rw [IsBare, semicolon]

/-! The rules for bytes are rules for characters. -/

namespace Part

def Allows : Part → Char → Prop
  | .name, c => Ascii.IsTchar c
  | .value, c => IsOctet c
  | .path, c | .domain, c => IsBare c

def rule : Part → UInt8 → Bool
  | .name => isTokenByte
  | .value => isCookieOctet
  | .path | .domain => isAttributeByte

/-- A byte is allowed as the character of the same number is. -/
theorem rule_iff (part : Part) (b : UInt8) : part.rule b = true ↔ part.Allows (Ascii.latin1 b) := by
  have attributes : isAttributeByte b = true ↔ IsBare (Ascii.latin1 b) := by
    have semicolon : (0x3B : UInt8).toNat = 0x3B := rfl
    simp only [isBare_iff, isAttributeByte, Ascii.isControl, Ascii.toNat_latin1, Bool.and_eq_true, bne_iff_ne, ne_eq,
      ← UInt8.toNat_inj, semicolon, Bool.not_eq_true', Bool.or_eq_false_iff, decide_eq_false_iff_not,
      beq_eq_false_iff_ne, not_or]
  cases part with
  | name => exact Ascii.isTokenChar_iff
  | value =>
    simp only [rule, isCookieOctet, Allows, IsOctet, Ascii.toNat_latin1, Bool.or_eq_true, Bool.and_eq_true,
      decide_eq_true_eq, beq_iff_eq, or_assoc]
  | path => exact attributes
  | domain => exact attributes

theorem allows_beyond_iff (part : Part) (beyond : 0x80 ≤ c.toNat) : part.Allows c ↔ part = .path ∨ part = .domain := by
  have bare : IsBare c := by
    rw [isBare_iff]
    omega
  cases part with
  | name =>
    refine iff_of_false (fun token => ?_) (by decide)
    have ascii := token.ascii
    omega
  | value =>
    refine iff_of_false (fun octet => ?_) (by decide)
    unfold Allows IsOctet at octet
    omega
  | path => exact iff_of_true bare (by decide)
  | domain => exact iff_of_true bare (by decide)

/-- Outside ASCII a character is allowed if its bytes are: a part has all of these or none. -/
theorem keeps_singleton_iff (part : Part) : Keeps part.rule [c] ↔ part.Allows c := by
  by_cases ascii : c.toNat < 0x80
  · rw [Keeps, Utf8.encode_cons_of_ascii ascii]
    refine List.forall_mem_singleton.trans ?_
    rw [rule_iff, Ascii.latin1_byte ascii]
  · have beyond := Nat.le_of_not_lt ascii
    have each : ∀ b ∈ Utf8.encodeChar c, (part.rule b = true ↔ part.Allows c) := by
      intro b member
      have large : 0x80 ≤ (Ascii.latin1 b).toNat := by
        rw [Ascii.toNat_latin1]
        exact Utf8.le_of_mem_encodeChar beyond member
      rw [rule_iff, allows_beyond_iff part large, allows_beyond_iff part beyond]
    rw [Keeps, Utf8.encode, List.flatMap_singleton]
    obtain ⟨b, first⟩ := List.exists_mem_of_ne_nil _ (Utf8.encodeChar_ne_nil c)
    exact ⟨fun keeps => (each b first).1 (keeps b first), fun allows b member => (each b member).2 allows⟩

theorem keeps_iff (part : Part) : Keeps part.rule text ↔ ∀ c ∈ text, part.Allows c := by
  simp only [← keeps_singleton_iff, Keeps, Utf8.encode, List.flatMap_singleton, List.forall_mem_flatMap]

end Part

theorem keeps_value_iff : Keeps isCookieOctet (Cookie.stripQuotes text) ↔ IsValue text := by
  have quote : ¬ IsOctet '"' := by
    unfold IsOctet
    decide
  refine (Part.keeps_iff .value).trans ?_
  constructor
  · intro kept
    rcases Cookie.stripQuotes_unquotes text with quoted | ⟨same, -⟩
    · exact .inr ⟨_, quoted, kept⟩
    · exact .inl (same ▸ kept)
  · rintro (whole | ⟨inner, spelled, kept⟩)
    · -- a quote is no octet, so a text of octets is not between quotes
      have bare : Cookie.Unquotes text text :=
        .inr ⟨rfl, fun other spelled => quote (whole '"' (spelled ▸ List.mem_cons_self))⟩
      rwa [← bare.unique (Cookie.stripQuotes_unquotes text)]
    · rwa [← Cookie.Unquotes.unique (.inl spelled) (Cookie.stripQuotes_unquotes text)]

theorem permitted_iff_grammatical : cookie.Permitted ↔ cookie.Grammatical := by
  have name : Keeps isTokenByte cookie.name.toList ↔ Ascii.AllTchar cookie.name.toList :=
    Part.keeps_iff .name
  constructor
  · intro permitted
    exact ⟨⟨permitted.named, name.1 permitted.name⟩, keeps_value_iff.1 permitted.value,
      fun text given => (Part.keeps_iff .path).1 (permitted.path text given),
      fun text given => (Part.keeps_iff .domain).1 (permitted.domain text given)⟩
  · intro grammatical
    exact ⟨grammatical.name.1, name.2 grammatical.name.2, keeps_value_iff.2 grammatical.value,
      fun text given => (Part.keeps_iff .path).2 (grammatical.path text given),
      fun text given => (Part.keeps_iff .domain).2 (grammatical.domain text given)⟩

/-! The byte that a cookie is refused for. -/

def Part.bytes (part : Part) (text : List Char) : List (Part × UInt8) := (Utf8.encode text).map (part, ·)

def Part.given (part : Part) (text : Option String) : List (Part × UInt8) := text.elim [] (part.bytes ·.toList)

def Obeys (item : Part × UInt8) : Prop := item.1.Allows (Ascii.latin1 item.2)

/-- The bytes that are looked at, part after part, with the inside of the value. -/
def scrutiny (cookie : SetCookie) (inner : List Char) : List (Part × UInt8) :=
  Part.name.bytes cookie.name.toList ++ (Part.value.bytes inner ++
    (Part.path.given cookie.path ++ Part.domain.given cookie.domain))

/-- The first violation: a missing name, or the first byte that its part does not allow. -/
inductive Offends (cookie : SetCookie) : Defect → Prop
  | emptyName : cookie.name.toList = [] → Offends cookie .emptyName
  | illegal {inner : List Char} {before : List (Part × UInt8)} {part : Part} {byte : UInt8} :
      cookie.name.toList ≠ [] → Cookie.Unquotes cookie.value.toList inner →
      FirstBreach Obeys (cookie.scrutiny inner) before (part, byte) → Offends cookie (.illegal byte part)

/-- A check of some bytes has the first one that breaks its rule, if there is one. -/
inductive Judged (items : List (Part × UInt8)) : Except Defect Unit → Prop
  | passed : (∀ item ∈ items, Obeys item) → Judged items (.ok ())
  | failed {before : List (Part × UInt8)} {part : Part} {byte : UInt8} :
      FirstBreach Obeys items before (part, byte) → Judged items (.error (.illegal byte part))

theorem Judged.bind {items others : List (Part × UInt8)} {first second : Except Defect Unit}
    (judged : Judged items first) (next : Judged others second) :
    Judged (items ++ others) (first >>= fun _ => second) := by
  cases judged with
  | failed breach => exact .failed (breach.append others)
  | passed kept =>
    cases next with
    | failed breach => exact .failed (breach.after kept)
    | passed keeps => exact .passed (List.forall_mem_append.2 ⟨kept, keeps⟩)

theorem Judged.eq_error_iff {items : List (Part × UInt8)} {result : Except Defect Unit} {defect : Defect}
    (judged : Judged items result) : result = .error defect ↔
      ∃ before part byte, FirstBreach Obeys items before (part, byte) ∧ defect = .illegal byte part := by
  cases judged with
  | passed kept =>
    refine iff_of_false nofun ?_
    rintro ⟨_, _, _, breach, -⟩
    exact breach.broken (kept _ breach.mem)
  | failed breach =>
    rw [Except.error.injEq]
    constructor
    · rintro rfl
      exact ⟨_, _, _, breach, rfl⟩
    · rintro ⟨_, _, _, other, rfl⟩
      obtain ⟨-, same⟩ := breach.unique other
      cases same
      rfl

theorem checkPart_judged (part : Part) (text : List Char) :
    Judged (part.bytes text) (checkPart part part.rule text) := by
  unfold checkPart
  split
  · next byte found =>
    obtain ⟨breaks, front, rest, spelled, kept⟩ := List.find?_eq_some_iff_append.1 found
    have breach : FirstBreach Obeys (part.bytes text) (front.map (part, ·)) (part, byte) := by
      refine ⟨⟨rest.map (part, ·), ?_⟩, ?_, ?_⟩
      · rw [Part.bytes, spelled, List.map_append, List.map_cons]
      · refine List.forall_mem_map.2 fun b member => (part.rule_iff b).1 ?_
        simpa using kept b member
      · intro obeys
        have holds : part.rule byte = true := (part.rule_iff byte).2 obeys
        simp [holds] at breaks
    exact .failed breach
  · next clean =>
    refine .passed (List.forall_mem_map.2 fun b member => (part.rule_iff b).1 ?_)
    simpa using List.find?_eq_none.1 clean b member

theorem checkAttribute_judged {part : Part} (bare : part.rule = isAttributeByte) (text : Option String) :
    Judged (part.given text) (checkAttribute part text) := by
  cases text with
  | none => exact .passed (List.forall_mem_nil _)
  | some text =>
    rw [checkAttribute, ← bare]
    exact checkPart_judged part text.toList

theorem check_judged (named : cookie.name.toList ≠ []) :
    Judged (cookie.scrutiny (Cookie.stripQuotes cookie.value.toList)) cookie.check := by
  have name := checkPart_judged .name cookie.name.toList
  have value := checkPart_judged .value (Cookie.stripQuotes cookie.value.toList)
  have path : Judged (Part.path.given cookie.path) _ := checkAttribute_judged rfl cookie.path
  have domain : Judged (Part.domain.given cookie.domain) _ := checkAttribute_judged rfl cookie.domain
  have parts := name.bind (value.bind (path.bind domain))
  have nonempty : cookie.name.toList.isEmpty = false := List.isEmpty_eq_false_iff.2 named
  unfold check
  rw [nonempty]
  exact parts

theorem check_eq_error_iff {defect : Defect} : cookie.check = .error defect ↔ cookie.Offends defect := by
  by_cases named : cookie.name.toList = []
  · have refused : cookie.check = .error .emptyName := by
      unfold check
      rw [named]
      rfl
    rw [refused, Except.error.injEq]
    constructor
    · rintro rfl
      exact .emptyName named
    · intro offends
      cases offends with
      | emptyName => rfl
      | illegal given => exact absurd named given
  · rw [(check_judged named).eq_error_iff]
    constructor
    · rintro ⟨_, _, _, breach, rfl⟩
      exact .illegal named (Cookie.stripQuotes_unquotes _) breach
    · intro offends
      cases offends with
      | emptyName missing => exact absurd missing named
      | illegal _ inside breach =>
        obtain rfl := inside.unique (Cookie.stripQuotes_unquotes _)
        exact ⟨_, _, _, breach, rfl⟩

/-- A cookie is encoded exactly if it is of the grammar, and one that is not is refused under its name for its first
violation. What is read out of a text on the way is always there: the slice of a value between quotes lies between
characters, every byte is the number of a character, and the time of the expiry leaves no word. -/
theorem accepts_exactly (cookie : SetCookie) (now : Instant) :
    ((∃ encoded, cookie.encode now = .ok encoded) ↔ cookie.Grammatical) ∧
    (∀ fault, cookie.encode now = .error fault ↔
      ∃ defect, cookie.Offends defect ∧ fault = .cookieEncoding cookie.name defect.reason) ∧
    (if Cookie.Quoted cookie.value.toList then
      ∃ stop, stop + 1 = (Bytes.ofText cookie.value).length ∧
        Text.IsSlice cookie.value.toList 1 stop (Cookie.stripQuotes cookie.value.toList)
      else Cookie.stripQuotes cookie.value.toList = cookie.value.toList) ∧
    (∀ byte : UInt8, (Ascii.latin1 byte).toNat = byte.toNat) ∧
    ∀ (reading : Int) (seconds : UInt64), Calendar.Represents reading →
      (Calendar.laterWord? (Int64.ofInt (Calendar.whole reading)) seconds).map Int64.toInt =
        Calendar.later? (Calendar.whole reading) seconds.toNat := by
  refine ⟨?_, fun fault => ?_, Cookie.stripQuotes_slice _, Ascii.toNat_latin1,
    fun _ seconds clock => Calendar.laterWord?_eq clock seconds⟩
  · rw [← permitted_iff_grammatical]
    simp only [encode_eq_ok_iff, exists_and_left, exists_eq, and_true]
  · simp only [← check_eq_error_iff, encode]
    cases cookie.check with
    | ok => simp
    | error defect => simp [eq_comm]

def doublyQuoted : SetCookie := ⟨"n", "\"\"a\"\"", none, some "/;", .session, false, false⟩

def nameless : SetCookie := { doublyQuoted with name := "" }

/-- The value is told before the path, and a missing name before both. -/
theorem doubly_quoted_refused :
    doublyQuoted.encode 0 = .error (.cookieEncoding "n" "illegal character '\"' in value") ∧
    ¬ doublyQuoted.Grammatical ∧
    (∃ defect, doublyQuoted.Offends defect ∧ defect.reason = "illegal character '\"' in value") ∧
    (∃ defect, nameless.Offends defect ∧ defect.reason = "empty cookie name") ∧
    (Calendar.laterWord? 0 60).map Int64.toInt = some 60 := by
  have fails : doublyQuoted.encode 0 = .error (.cookieEncoding "n" "illegal character '\"' in value") := by
    decide +kernel
  have fails_first : nameless.encode 0 = .error (.cookieEncoding "" "empty cookie name") := by decide +kernel
  obtain ⟨accepted, refused, -, -, words⟩ := accepts_exactly doublyQuoted 0
  refine ⟨fails, fun grammatical => ?_, ?_, ?_, (words 0 60 (by decide +kernel)).trans (by decide)⟩
  · obtain ⟨encoded, encodes⟩ := accepted.2 grammatical
    rw [fails] at encodes
    cases encodes
  · obtain ⟨defect, offends, fault⟩ := (refused _).1 fails
    exact ⟨defect, offends, (Fault.cookieEncoding.inj fault).2.symm⟩
  · obtain ⟨defect, offends, fault⟩ := ((accepts_exactly nameless 0).2.1 _).1 fails_first
    exact ⟨defect, offends, (Fault.cookieEncoding.inj fault).2.symm⟩

end SetCookie

end Sluice
