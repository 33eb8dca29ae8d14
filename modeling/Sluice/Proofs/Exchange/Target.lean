import Mathlib.Data.List.Forall2
import Sluice.Exchange.Inbound
import Sluice.Proofs.Text.Percent
import Sluice.Proofs.Text.Pieces

/-! Request targets that spell a path and a list of parameters. Such a target passes its check, however its bytes are
spelled, and what is read from it is the path and the parameters in order. -/

set_option autoImplicit false

namespace Sluice

namespace Target

/-- Targets that pass: every percent sign begins a whole escape, and no other byte is illegal. -/
inductive WellFormed : Bytes → Prop where
  | nil : WellFormed []
  | plain {b : UInt8} {rest : Bytes} : isPercent b = false → isIllegal b = false →
    WellFormed rest → WellFormed (b :: rest)
  | escape {high low : UInt8} {rest : Bytes} : isHexByte high = true → isHexByte low = true →
    WellFormed rest → WellFormed (0x25 :: high :: low :: rest)

theorem WellFormed.append {first second : Bytes} (front : WellFormed first) (back : WellFormed second) :
    WellFormed (first ++ second) := by
  induction front with
  | nil => exact back
  | plain percent illegal _ ih => exact .plain percent illegal ih
  | escape high low _ ih => exact .escape high low ih

theorem scan_plain {b : UInt8} (percent : isPercent b = false) (illegal : isIllegal b = false) (offset : Nat)
    (rest : Bytes) : scan offset (b :: rest) = scan (offset + 1) rest := by
  match rest with
  | [] => simp [scan, percent, illegal]
  | [_] => simp [scan, percent, illegal]
  | _ :: _ :: _ => simp [scan, percent, illegal]

theorem WellFormed.scan {bytes : Bytes} (formed : WellFormed bytes) (offset : Nat) : scan offset bytes = none := by
  induction formed generalizing offset with
  | nil => rfl
  | plain percent illegal _ ih => rw [scan_plain percent illegal, ih]
  | escape high low _ ih => simpa [Target.scan, isPercent, high, low] using ih (offset + 3)

theorem validate_of_wellFormed {target : String} (formed : WellFormed (Bytes.ofText target)) :
    validate target = .ok () := by
  rw [validate, defect?, formed.scan]

/-- A visible ASCII character other than the percent sign. -/
theorem wellFormed_char {c : Char} (visible : 0x20 < c.toNat) (ascii : c.toNat < 0x7F) (other : c.toNat ≠ 0x25) :
    WellFormed (Utf8.encode [c]) := by
  have number : (Utf8.byte c.toNat).toNat = c.toNat := Utf8.toNat_byte (by omega)
  rw [Utf8.encode_cons_of_ascii (by omega)]
  refine .plain ?_ ?_ .nil
  · simp only [isPercent, beq_eq_false_iff_ne, ne_eq, ← UInt8.toNat_inj, number]
    exact other
  · simp only [isIllegal, number, Bool.or_eq_false_iff, decide_eq_false_iff_not, beq_eq_false_iff_ne, ne_eq,
      ← UInt8.toNat_inj]
    exact ⟨by omega, fun delete => absurd (show c.toNat = 127 from delete) (by omega)⟩

theorem wellFormed_spelling {plus : Bool} {bytes : Bytes} {text : List Char} (spells : Percent.Spells plus bytes text) :
    WellFormed (Utf8.encode text) := by
  induction spells with
  | nil => exact .nil
  | @unreserved c _ rest plain _ ih =>
    have visible := Percent.visible_of_isUnreserved plain
    have percent := Percent.ne_of_isUnreserved plain (by decide : Percent.isUnreserved '%' = false)
    rw [← List.singleton_append, Utf8.encode_append]
    exact (wellFormed_char visible.1 visible.2 fun same => percent (Char.toNat_inj.1 same)).append ih
  | escape first second _ ih =>
    have high := Percent.ascii_of_isUnreserved (Percent.isUnreserved_of_hexValue? first)
    have low := Percent.ascii_of_isUnreserved (Percent.isUnreserved_of_hexValue? second)
    rw [Utf8.encode_cons_of_ascii (by decide), Utf8.encode_cons_of_ascii high, Utf8.encode_cons_of_ascii low]
    refine .escape ?_ ?_ ih
    · simp [isHexByte, Ascii.latin1_byte high, Ascii.isHexDigit, first]
    · simp [isHexByte, Ascii.latin1_byte low, Ascii.isHexDigit, second]
  | space _ _ ih =>
    rw [← List.singleton_append, Utf8.encode_append]
    exact (wellFormed_char (by decide) (by decide) (by decide)).append ih

end Target

namespace Uri

/-- What a spelling consists of may stand in a path and in a query. -/
theorem isPathChar_and_isQueryChar {c : Char} (spelled : Percent.isUnreserved c = true ∨ c = '%' ∨ c = '+') :
    isPathChar c = true ∧ isQueryChar c = true := by
  have each : ∀ n : Fin 128, Percent.isUnreserved (Char.ofNat n) = true →
      isPathChar (Char.ofNat n) = true ∧ isQueryChar (Char.ofNat n) = true := by decide +kernel
  rcases spelled with plain | rfl | rfl
  · have found := each ⟨c.toNat, Percent.ascii_of_isUnreserved plain⟩
    simp only [Char.ofNat_toNat] at found
    exact found plain
  · decide
  · decide

variable {path query : List Char}

theorem ofChars?_origin (rest : List Char) :
    ofChars? ('/' :: rest) =
      if maxLength < byteLength ('/' :: rest) then .error .tooLong
      else do
        let (path, query) ← pathAndQuery? ('/' :: rest)
        return ⟨none, none, path, query⟩ := rfl

/-- A path and a query of legal characters are taken for what they are, unless they are too long. -/
theorem ofText?_origin (paths : ∀ c ∈ path, isPathChar c = true) (queries : ∀ c ∈ query, isQueryChar c = true) :
    ofText? (String.ofList ('/' :: path ++ '?' :: query)) =
      if maxLength < byteLength ('/' :: path ++ '?' :: query) then .error .tooLong
      else .ok ⟨none, none, String.ofList ('/' :: path), some (String.ofList query)⟩ := by
  have slash : ∀ c ∈ '/' :: path, isPathChar c = true := by
    intro c member
    rcases List.mem_cons.1 member with rfl | member
    · decide
    · exact paths c member
  have mark : ¬ isPathChar '?' = true := by decide
  have front : ('/' :: path ++ '?' :: query).takeWhile isPathChar = '/' :: path := by
    rw [List.takeWhile_append_of_pos slash, List.takeWhile_cons_of_neg mark, List.append_nil]
  have back : ('/' :: path ++ '?' :: query).dropWhile isPathChar = '?' :: query := by
    rw [List.dropWhile_append_of_pos slash, List.dropWhile_cons_of_neg mark]
  have all : query.takeWhile isQueryChar = query := List.takeWhile_eq_self_iff.2 queries
  have none : query.dropWhile isQueryChar = [] := List.dropWhile_eq_nil_iff.2 queries
  have parts : pathAndQuery? ('/' :: path ++ '?' :: query) =
      .ok (String.ofList ('/' :: path), some (String.ofList query)) := by
    simp only [pathAndQuery?, front, back, query?, all, none]
    rfl
  rw [List.cons_append] at parts ⊢
  rw [ofText?, String.toList_ofList, ofChars?_origin, parts]
  rfl

theorem target_origin (path query : List Char) :
    target ⟨none, none, String.ofList ('/' :: path), some (String.ofList query)⟩ =
      String.ofList ('/' :: path ++ '?' :: query) := by
  simp [target, String.append_assoc]

end Uri

namespace Inbound

/-- A parameter as it stands in a query: name and value with an equals sign between. -/
def SpellsParameter (parameter : String × String) (segment : List Char) : Prop :=
  ∃ name value, Percent.Spells true (Bytes.ofText parameter.1) name ∧
    Percent.Spells true (Bytes.ofText parameter.2) value ∧ segment = name ++ '=' :: value

theorem decodeComponent?_spelling {part : String} {text : List Char}
    (spells : Percent.Spells true (Bytes.ofText part) text) : decodeComponent? text = some part := by
  have decoded := spells.decode_unplus
  exact Bytes.toText?_eq_some_iff.2 decoded

theorem parameter?_spelling {parameter : String × String} {segment : List Char}
    (spells : SpellsParameter parameter segment) : parameter? segment = some parameter := by
  obtain ⟨name, value, first, second, rfl⟩ := spells
  have absent : '=' ∉ name := first.not_mem (by decide) (by decide) (by decide)
  have cut : Text.splitOnce? '=' (name ++ '=' :: value) = some (name, value) :=
    Text.splitOnce?_eq_some_iff.2 ⟨rfl, absent⟩
  simp [parameter?, cut, decodeComponent?_spelling first, decodeComponent?_spelling second]

theorem ampersand_not_mem {parameter : String × String} {segment : List Char}
    (spells : SpellsParameter parameter segment) : '&' ∉ segment := by
  obtain ⟨name, value, first, second, rfl⟩ := spells
  have inName : '&' ∉ name := first.not_mem (by decide) (by decide) (by decide)
  have inValue : '&' ∉ value := second.not_mem (by decide) (by decide) (by decide)
  simp [inName, inValue]

theorem segment_ne_nil {parameter : String × String} {segment : List Char}
    (spells : SpellsParameter parameter segment) : segment ≠ [] := by
  obtain ⟨name, value, -, -, rfl⟩ := spells
  simp

variable {parameters : List (String × String)} {segments : List (List Char)}

theorem filterMap_spellings (spells : List.Forall₂ SpellsParameter parameters segments) :
    (segments.filter (!·.isEmpty)).filterMap parameter? = parameters := by
  induction spells with
  | nil => rfl
  | @cons parameter segment _ segments first _ ih =>
    have kept : (segment :: segments).filter (!·.isEmpty) = segment :: segments.filter (!·.isEmpty) :=
      List.filter_cons_of_pos (by simpa using segment_ne_nil first)
    rw [kept, List.filterMap_cons, parameter?_spelling first, ih]

theorem exists_parameter (spells : List.Forall₂ SpellsParameter parameters segments) :
    ∀ segment ∈ segments, ∃ parameter, SpellsParameter parameter segment := by
  induction spells with
  | nil => exact nofun
  | @cons parameter segment _ _ first _ ih =>
    intro other member
    rcases List.mem_cons.1 member with rfl | later
    · exact ⟨parameter, first⟩
    · exact ih other later

theorem each_without_ampersand (spells : List.Forall₂ SpellsParameter parameters segments) :
    ∀ segment ∈ segments, '&' ∉ segment := by
  intro segment member
  obtain ⟨parameter, spelled⟩ := exists_parameter spells segment member
  exact ampersand_not_mem spelled

theorem parametersOf_spelling (spells : List.Forall₂ SpellsParameter parameters segments) :
    parametersOf (String.ofList (['&'].intercalate segments)) = parameters := by
  rw [parametersOf, String.toList_ofList]
  cases spells with
  | nil => rfl
  | cons first rest =>
    have spells := List.Forall₂.cons first rest
    rw [Text.splitOn_intercalate '&' (each_without_ampersand spells) (List.cons_ne_nil _ _), filterMap_spellings spells]

theorem decodePath_spelling {path : String} {text : List Char}
    (spells : Percent.Spells false (Bytes.ofText path) text) :
    decodePath (String.ofList ('/' :: text)) = "/" ++ path := by
  have bytes : Bytes.ofText (String.ofList ('/' :: text)) = 0x2F :: Utf8.encode text := by
    rw [Bytes.ofText, String.toList_ofList, Utf8.encode_cons_of_ascii (by decide)]
    rfl
  have whole : 0x2F :: Bytes.ofText path = Bytes.ofText ("/" ++ path) := by
    rw [Bytes.ofText, Bytes.ofText, String.toList_append, Utf8.encode_append]
    rfl
  rw [decodePath, bytes, Percent.decode_plain (by decide), spells.decode, whole, Bytes.toTextLossy_ofText]

/-! The parts of the target. -/

theorem isQueryChar_parameter {parameter : String × String} {segment : List Char}
    (spells : SpellsParameter parameter segment) : ∀ c ∈ segment, Uri.isQueryChar c = true := by
  obtain ⟨name, value, first, second, rfl⟩ := spells
  intro c member
  rcases List.mem_append.1 member with inName | rest
  · exact (Uri.isPathChar_and_isQueryChar (first.char c inName)).2
  · rcases List.mem_cons.1 rest with rfl | inValue
    · decide
    · exact (Uri.isPathChar_and_isQueryChar (second.char c inValue)).2

theorem isQueryChar_query (spells : List.Forall₂ SpellsParameter parameters segments) :
    ∀ c ∈ ['&'].intercalate segments, Uri.isQueryChar c = true := by
  intro c member
  rcases Text.mem_intercalate member with between | ⟨segment, among, inside⟩
  · obtain rfl := List.mem_singleton.1 between
    decide
  · obtain ⟨parameter, spelled⟩ := exists_parameter spells segment among
    exact isQueryChar_parameter spelled c inside

theorem wellFormed_parameter {parameter : String × String} {segment : List Char}
    (spells : SpellsParameter parameter segment) : Target.WellFormed (Utf8.encode segment) := by
  obtain ⟨name, value, first, second, rfl⟩ := spells
  rw [← List.singleton_append, Utf8.encode_append, Utf8.encode_append]
  exact (Target.wellFormed_spelling first).append
    ((Target.wellFormed_char (by decide) (by decide) (by decide)).append (Target.wellFormed_spelling second))

theorem wellFormed_query (spells : List.Forall₂ SpellsParameter parameters segments) :
    Target.WellFormed (Utf8.encode (['&'].intercalate segments)) := by
  induction spells with
  | nil => exact .nil
  | cons first rest ih =>
    cases rest with
    | nil => simpa using wellFormed_parameter first
    | cons second others =>
      rw [List.intercalate_cons_cons, Utf8.encode_append, Utf8.encode_append]
      have ampersand : Target.WellFormed (Utf8.encode ['&']) :=
        Target.wellFormed_char (by decide) (by decide) (by decide)
      exact ((wellFormed_parameter first).append ampersand).append ih

/-- A target that spells a path and a list of parameters is adapted, unless it is too long for a target, and the path
and the parameters are read from it as they are: in order, repeated and empty ones included. -/
theorem decodes_target {path : String} {spelledPath : List Char}
    (paths : Percent.Spells false (Bytes.ofText path) spelledPath)
    (queries : List.Forall₂ SpellsParameter parameters segments) {uri : Uri}
    (accepted : Uri.ofText? (String.ofList ('/' :: spelledPath ++ '?' :: ['&'].intercalate segments)) = .ok uri)
    (context : Context) (request : Request) (aimed : request.uri = uri) :
    ∃ inbound, ofRequest context request = .ok inbound ∧ inbound.path = "/" ++ path ∧
      inbound.queryParameters = parameters := by
  have pathChars : ∀ c ∈ spelledPath, Uri.isPathChar c = true := fun c member =>
    (Uri.isPathChar_and_isQueryChar (paths.char c member)).1
  rw [Uri.ofText?_origin pathChars (isQueryChar_query queries)] at accepted
  split at accepted
  · cases accepted
  -- the adapter sees the target spelled out again from its parts
  have parts : request.uri = ⟨none, none, String.ofList ('/' :: spelledPath),
      some (String.ofList (['&'].intercalate segments))⟩ := by
    rw [aimed]
    exact (Except.ok.inj accepted).symm
  have target : Bytes.ofText request.uri.target = Utf8.encode ['/'] ++ Utf8.encode spelledPath ++
      (Utf8.encode ['?'] ++ Utf8.encode (['&'].intercalate segments)) := by
    rw [parts, Uri.target_origin, Bytes.ofText, String.toList_ofList, ← Utf8.encode_append, ← Utf8.encode_append,
      ← Utf8.encode_append]
    rfl
  have formed : Target.WellFormed (Bytes.ofText request.uri.target) := by
    rw [target]
    have slash : Target.WellFormed (Utf8.encode ['/']) := Target.wellFormed_char (by decide) (by decide) (by decide)
    have mark : Target.WellFormed (Utf8.encode ['?']) := Target.wellFormed_char (by decide) (by decide) (by decide)
    exact (slash.append (Target.wellFormed_spelling paths)).append (mark.append (wellFormed_query queries))
  refine ⟨_, by rw [ofRequest, Target.validate_of_wellFormed formed], ?_, ?_⟩
  · rw [parts]
    exact decodePath_spelling paths
  · simp [queryParameters, query?, parts, parametersOf_spelling queries]

def spelledRequest : Request where
  method := "GET"
  uri := ⟨none, none, "/%c3%a9%2f%20%2b%25", some "a+b=1%262&=x%3Dy&a%20b="⟩
  version := "HTTP/1.1"
  headers := .empty
  body := []
  context := none

theorem spelled_decoded :
    Percent.Spells false (Bytes.ofText "é/ +%") "%c3%a9%2f%20%2b%25".toList ∧
      List.Forall₂ SpellsParameter [("a b", "1&2"), ("", "x=y"), ("a b", "")]
        ["a+b=1%262".toList, "=x%3Dy".toList, "a%20b=".toList] ∧
      Uri.ofText? "/%c3%a9%2f%20%2b%25?a+b=1%262&=x%3Dy&a%20b=" = .ok spelledRequest.uri ∧
      ∃ inbound, ofRequest default spelledRequest = .ok inbound ∧ inbound.path = "/é/ +%" ∧
        inbound.queryParameters = [("a b", "1&2"), ("", "x=y"), ("a b", "")] := by
  have paths : Percent.Spells false (Bytes.ofText "é/ +%") "%c3%a9%2f%20%2b%25".toList :=
    Percent.spells_encode false (Bytes.ofText "é/ +%")
  have first : SpellsParameter ("a b", "1&2") "a+b=1%262".toList := by
    refine ⟨"a+b".toList, _, ?_, Percent.spells_encode true _, rfl⟩
    exact .unreserved (by decide : Percent.isUnreserved 'a' = true)
      (.space rfl (.unreserved (by decide : Percent.isUnreserved 'b' = true) .nil))
  have second : SpellsParameter ("", "x=y") "=x%3Dy".toList := by
    refine ⟨[], "x%3Dy".toList, .nil, ?_, rfl⟩
    exact .unreserved (by decide : Percent.isUnreserved 'x' = true)
      (.escape (by decide : Ascii.hexValue? '3' = some 3) (by decide : Ascii.hexValue? 'D' = some 13)
        (.unreserved (by decide : Percent.isUnreserved 'y' = true) .nil))
  have third : SpellsParameter ("a b", "") "a%20b=".toList :=
    ⟨_, _, Percent.spells_encode true _, .nil, rfl⟩
  have queries := List.Forall₂.cons first (.cons second (.cons third .nil))
  have accepted : Uri.ofText? "/%c3%a9%2f%20%2b%25?a+b=1%262&=x%3Dy&a%20b=" = .ok spelledRequest.uri := by
    decide +kernel
  exact ⟨paths, queries, accepted, decodes_target paths queries accepted default spelledRequest rfl⟩

end Inbound

end Sluice
