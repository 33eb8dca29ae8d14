import Mathlib.Data.List.Nodup
import Sluice.Headers
import Sluice.Proofs.Cookie.Encoding
import Sluice.Proofs.Text.Ascii

/-! The way between the map of the wire and the collection of the handlers. Names keep their order and values stay with
their name on both ways. What the way through the collection does to a value is what reading it as text does, and what
the way through the map does to a name is to give it in lower case. -/

set_option autoImplicit false

namespace Sluice

namespace HeaderName

/-- A token, in whatever case. -/
def IsToken (name : String) : Prop := name.toList ≠ [] ∧ Ascii.AllTchar name.toList

instance (name : String) : Decidable (IsToken name) :=
  inferInstanceAs (Decidable (name.toList ≠ [] ∧ Ascii.AllTchar name.toList))

/-- A token of no more characters than fit in a name. -/
def IsName (name : String) : Prop := IsToken name ∧ name.toList.length ≤ 65535

instance (name : String) : Decidable (IsName name) :=
  inferInstanceAs (Decidable (IsToken name ∧ name.toList.length ≤ 65535))

def lowerText (name : String) : String := String.ofList (Ascii.lower name.toList)

theorem lower_text (name : HeaderName) : Ascii.lower name.text.toList = name.text.toList := by
  have plain : ∀ c ∈ name.text.toList, Ascii.lowerChar c = c := by
    intro c member
    have legal := List.all_eq_true.1 name.token c member
    simp only [isNameChar, Bool.and_eq_true, Bool.not_eq_true'] at legal
    exact Ascii.lowerChar_eq_self legal.2
  exact (List.map_congr_left plain).trans (List.map_id _)

theorem toList_injective : Function.Injective fun name : HeaderName => name.text.toList := by
  intro first second same
  exact HeaderName.ext (String.toList_inj.1 same)

theorem ofText?_text (name : HeaderName) : ofText? name.text = some name := by
  simp [ofText?, lower_text, name.nonempty, name.token, name.short]

theorem ofText?_of_isName {name : String} (isName : IsName name) :
    ∃ key, ofText? name = some key ∧ key.text = lowerText name := by
  obtain ⟨token, short⟩ := isName
  have nonempty : Ascii.lower name.toList ≠ [] := by simpa [Ascii.lower] using token.1
  have legal : (Ascii.lower name.toList).all isNameChar = true := by
    rw [Ascii.lower, List.all_map, List.all_eq_true]
    intro c member
    have each := Ascii.isTokenChar_iff.2 (token.2 c member)
    simp [isNameChar, Ascii.isTokenChar_lowerChar each, Ascii.isUpper_lowerChar]
  have brief : (Ascii.lower name.toList).length ≤ maxLength := by simpa [Ascii.lower, maxLength] using short
  simp [ofText?, nonempty, legal, brief, lowerText]

theorem ofText?_eq_some_iff {name : String} {key : HeaderName} :
    ofText? name = some key ↔ IsName name ∧ key.text = lowerText name := by
  constructor
  · intro read
    obtain ⟨⟨nonempty, legal, short⟩, same⟩ := Option.dite_none_right_eq_some.1 read
    obtain rfl := Option.some.inj same
    have brief : name.toList.length ≤ 65535 := by simpa [Ascii.lower, maxLength] using short
    refine ⟨⟨⟨by simpa [Ascii.lower] using nonempty, fun c member => Ascii.isTokenChar_iff.1 ?_⟩, brief⟩, rfl⟩
    rw [String.toList_ofList, Ascii.lower, List.all_map, List.all_eq_true] at legal
    have lowered := legal c member
    simp only [Function.comp_apply, isNameChar, Bool.and_eq_true] at lowered
    exact Ascii.isTokenChar_of_lowerChar lowered.1
  · rintro ⟨isName, text⟩
    obtain ⟨other, read, same⟩ := ofText?_of_isName isName
    rw [read, HeaderName.ext (same.trans text.symm)]

theorem ofText?_isSome_iff {name : String} : (ofText? name).isSome = true ↔ IsName name := by
  rw [Option.isSome_iff_exists]
  constructor
  · rintro ⟨key, read⟩
    exact (ofText?_eq_some_iff.1 read).1
  · intro isName
    obtain ⟨key, read, -⟩ := ofText?_of_isName isName
    exact ⟨key, read⟩

end HeaderName

namespace HeaderValue

theorem admits_of_le {c : Char} (beyond : 0x80 ≤ c.toNat) : Admits [c] := by
  intro b member
  rw [Utf8.encode, List.flatMap_singleton] at member
  have large := Utf8.le_of_mem_encodeChar beyond member
  omega

/-- Reading a value as text makes nothing illegal. -/
theorem admits_decodeLossy {bytes : Bytes} (legal : bytes.all isLegal = true) : Admits (Utf8.decodeLossy bytes) := by
  refine .of_forall fun c read => ?_
  by_cases ascii : c.toNat < 0x80
  · have member := Utf8.ascii_mem_of_mem_decodeLossy read ascii
    intro b alone
    obtain rfl : b = Utf8.byte c.toNat := by simpa [Utf8.encode, Utf8.encodeChar, ascii] using alone
    exact isLegal_iff.1 (List.all_eq_true.1 legal _ member)
  · exact admits_of_le (Nat.le_of_not_lt ascii)

def text (value : HeaderValue) : String := Bytes.toTextLossy value.bytes

theorem legal_text (value : HeaderValue) : (Bytes.ofText value.text).all isLegal = true := by
  rw [text, Bytes.ofText, Bytes.toTextLossy, String.toList_ofList]
  exact List.all_eq_true.2 fun b member => isLegal_iff.2 (admits_decodeLossy value.legal b member)

/-- The value after it was read as text, with replacement characters for what is no text. -/
def lossy (value : HeaderValue) : HeaderValue := ⟨Bytes.ofText value.text, legal_text value⟩

theorem ofText?_eq_some_iff {text : String} {value : HeaderValue} : ofText? text = some value ↔ value.bytes = Bytes.ofText text := by
  constructor
  · intro read
    obtain ⟨legal, same⟩ := Option.dite_none_right_eq_some.1 read
    rw [← Option.some.inj same]
  · intro same
    have legal : (Bytes.ofText text).all isLegal = true := same ▸ value.legal
    rw [ofText?, ofBytes?, dif_pos legal]
    exact congrArg some (HeaderValue.ext same.symm)

theorem ofText?_isSome_iff {text : String} : (ofText? text).isSome = true ↔ Admits text.toList := by
  refine ⟨fun isSome => ?_, ofText?_isSome⟩
  obtain ⟨value, read⟩ := Option.isSome_iff_exists.1 isSome
  have legal := value.legal
  rw [ofText?_eq_some_iff.1 read] at legal
  exact fun b member => isLegal_iff.1 (List.all_eq_true.1 legal b member)

theorem ofText?_text (value : HeaderValue) : ofText? value.text = some value.lossy := by
  exact ofText?_eq_some_iff.2 rfl

theorem text_of_ofText? {text : String} {value : HeaderValue} (read : ofText? text = some value) : value.text = text := by
  rw [HeaderValue.text, ofText?_eq_some_iff.1 read, Bytes.toTextLossy_ofText]

theorem lossy_eq_iff {value : HeaderValue} : value.lossy = value ↔ value.bytes.toByteArray.IsValidUTF8 := by
  rw [← Bytes.ofText_toTextLossy_eq_iff]
  constructor
  · exact congrArg HeaderValue.bytes
  · exact fun same => HeaderValue.ext same

end HeaderValue

/-! Adding to a list of entries. -/

theorem not_mem_of_nodup_append {α β : Type} {key : α → β} {before after : List α} {item : α}
    (distinct : ((before ++ item :: after).map key).Nodup) : key item ∉ before.map key := by
  rw [List.map_append, List.map_cons, List.nodup_append] at distinct
  intro member
  exact distinct.2.2 _ member _ List.mem_cons_self rfl

namespace HeaderMap

variable {entries before : List (HeaderName × List HeaderValue)} {key : HeaderName} {value : HeaderValue}
  {values : List HeaderValue}

theorem append_entries (map : HeaderMap) (key : HeaderName) (value : HeaderValue) :
    (map.append key value).entries = appendTo key value map.entries := rfl

theorem appendTo_absent (absent : key ∉ entries.map (·.1)) :
    appendTo key value entries = entries ++ [(key, [value])] := by
  induction entries with
  | nil => rfl
  | cons entry rest ih =>
    obtain ⟨other, values⟩ := entry
    simp only [List.map_cons, List.mem_cons, not_or] at absent
    rw [appendTo, if_neg (Ne.symm absent.1), ih absent.2, List.cons_append]

theorem appendTo_last (absent : key ∉ before.map (·.1)) :
    appendTo key value (before ++ [(key, values)]) = before ++ [(key, values ++ [value])] := by
  induction before with
  | nil => simp [appendTo]
  | cons entry rest ih =>
    obtain ⟨other, values⟩ := entry
    simp only [List.map_cons, List.mem_cons, not_or] at absent
    rw [List.cons_append, appendTo, if_neg (Ne.symm absent.1), ih absent.2, List.cons_append]

/-- The map after all its values were read as text. -/
def lossy (map : HeaderMap) : HeaderMap where
  entries := map.entries.map fun entry => (entry.1, entry.2.map HeaderValue.lossy)
  distinct := by simpa [Function.comp_def] using map.distinct
  filled := by
    intro entry member
    obtain ⟨original, inside, rfl⟩ := List.mem_map.1 member
    simpa using map.filled original inside

end HeaderMap

namespace Headers

variable {headers : Headers} {entries : List (String × List String)} {name : String}

theorem alter_absent {change : List String → List String} {fresh : List String}
    (absent : key name ∉ entries.map (key ·.1)) : alter name change fresh entries = entries ++ [(name, fresh)] := by
  induction entries with
  | nil => rfl
  | cons entry rest ih =>
    obtain ⟨other, values⟩ := entry
    simp only [List.map_cons, List.mem_cons, not_or] at absent
    have different : ¬ sameName other name = true := fun same => absent.1 (sameName_iff.1 same).symm
    rw [alter, if_neg different, ih absent.2, List.cons_append]

/-- Two changes of one entry are one change. -/
theorem alter_alter (first second : List String → List String) (fresh unused : List String) :
    alter name second unused (alter name first fresh entries) = alter name (second ∘ first) (second fresh) entries := by
  induction entries with
  | nil =>
    have self : sameName name name = true := sameName_iff.2 rfl
    simp [alter, self]
  | cons entry rest ih =>
    obtain ⟨other, values⟩ := entry
    by_cases same : sameName other name = true
    · simp [alter, same]
    · simpa [alter, same] using ih

theorem add_entries (headers : Headers) (name value : String) :
    (headers.add name value).entries = alter name (· ++ [value]) [value] headers.entries := rfl

theorem addAll_entries (headers : Headers) (name : String) {values : List String} (some : values ≠ []) :
    (headers.addAll name values).entries = alter name (· ++ values) values headers.entries := by
  have isSome : ¬ values.isEmpty = true := by simpa using some
  rw [addAll, dif_neg isSome]

/-- Several values are added one by one. -/
theorem addAll_eq_foldl (headers : Headers) (name : String) (values : List String) :
    headers.addAll name values = values.foldl (fun headers value => headers.add name value) headers := by
  induction values generalizing headers with
  | nil => rfl
  | cons value rest ih =>
    rw [List.foldl_cons, ← ih]
    cases rest with
    | nil => rfl
    | cons next others =>
      -- to add nothing is no change, so the two changes are joined only where more values follow
      apply Headers.ext
      rw [addAll_entries _ _ (List.cons_ne_nil _ _), addAll_entries _ _ (List.cons_ne_nil _ _), add_entries,
        alter_alter]
      congr 1
      funext values
      simp

/-- Adds entry after entry. -/
def addEntries (headers : Headers) (added : List (String × List String)) : Headers :=
  added.foldl (fun headers entry => headers.addAll entry.1 entry.2) headers

/-- Entries that are added to a collection come after it as they are, if their names are new and have values. -/
theorem addEntries_entries {added : List (String × List String)} (filled : ∀ entry ∈ added, entry.2 ≠ [])
    {headers : Headers} (distinct : ((headers.entries ++ added).map (key ·.1)).Nodup) :
    (headers.addEntries added).entries = headers.entries ++ added := by
  induction added generalizing headers with
  | nil => simp [addEntries]
  | cons entry rest ih =>
    have absent : key entry.1 ∉ headers.entries.map (key ·.1) := not_mem_of_nodup_append distinct
    have first : (headers.addAll entry.1 entry.2).entries = headers.entries ++ [entry] := by
      rw [addAll_entries _ _ (filled entry (by simp)), alter_absent absent]
    have others : ∀ other ∈ rest, other.2 ≠ [] := fun other member => filled other (by simp [member])
    -- the entry moves from what is to be added to what is there
    rw [List.append_cons, ← first] at distinct ⊢
    exact ih others distinct

/-- An entry of a map as it stands in the collection. -/
def decodeEntry (entry : HeaderName × List HeaderValue) : String × List String :=
  (entry.1.text, entry.2.map HeaderValue.text)

theorem key_text (name : HeaderName) : key name.text = name.text.toList := HeaderName.lower_text name

/-- A map is decoded field by field, which comes to the same as entry by entry. -/
theorem ofHeaderMap_eq_addEntries (map : HeaderMap) :
    ofHeaderMap map = addEntries empty (map.entries.map decodeEntry) := by
  unfold ofHeaderMap HeaderMap.fields
  generalize map.entries = entries
  generalize empty = headers
  induction entries generalizing headers with
  | nil => rfl
  | cons entry rest ih =>
    have first : headers.addAll entry.1.text (entry.2.map HeaderValue.text) =
        entry.2.foldl (fun headers value => headers.add entry.1.text value.text) headers := by
      rw [addAll_eq_foldl, List.foldl_map]
    rw [List.flatMap_cons, List.foldl_append, ih, List.foldl_map]
    exact congrArg (addEntries · (rest.map decodeEntry)) first.symm

theorem ofHeaderMap_entries (map : HeaderMap) : (ofHeaderMap map).entries = map.entries.map decodeEntry := by
  have distinct : ((map.entries.map decodeEntry).map (key ·.1)).Nodup := by
    have keys : (map.entries.map decodeEntry).map (key ·.1) =
        (map.entries.map (·.1)).map fun name => name.text.toList := by
      simp [decodeEntry, key_text]
    rw [keys]
    exact List.Nodup.map HeaderName.toList_injective map.distinct
  have filled : ∀ entry ∈ map.entries.map decodeEntry, entry.2 ≠ [] := by
    intro entry member
    obtain ⟨original, inside, rfl⟩ := List.mem_map.1 member
    simpa [decodeEntry] using map.filled original inside
  rw [ofHeaderMap_eq_addEntries]
  exact addEntries_entries filled distinct

/-- The values of a name are those of the map, each read as text. -/
theorem getAll_ofHeaderMap (map : HeaderMap) (name : HeaderName) :
    (ofHeaderMap map).getAll name.text = (map.getAll name).map HeaderValue.text := by
  have same : ((sameName ·.1 name.text) ∘ decodeEntry) = fun entry => decide (entry.1 = name) := by
    funext entry
    rw [Function.comp_apply, Bool.eq_iff_iff, sameName_iff, decodeEntry, key_text, key_text, decide_eq_true_eq]
    exact HeaderName.toList_injective.eq_iff
  rw [getAll, ofHeaderMap_entries, List.find?_map, same, HeaderMap.getAll]
  cases map.entries.find? fun entry => decide (entry.1 = name) <;> rfl

/-! What the encoding of entries gives. -/

/-- The name and the values of an entry are read as those of an entry of a map. -/
structure Encodes (entry : String × List String) (sent : HeaderName × List HeaderValue) : Prop where
  name : HeaderName.ofText? entry.1 = some sent.1
  values : entry.2.map HeaderValue.ofText? = sent.2.map some

theorem appendValues_last (name : String) {key : HeaderName} {texts : List String}
    {values done : List HeaderValue} {before : List (HeaderName × List HeaderValue)} {map : HeaderMap}
    (reads : texts.map HeaderValue.ofText? = values.map some) (last : map.entries = before ++ [(key, done)])
    (absent : key ∉ before.map (·.1)) :
    ∃ full, appendValues name key map texts = (full, none) ∧ full.entries = before ++ [(key, done ++ values)] := by
  -- the entry is the last one and stays so, with one value more at each step
  induction texts generalizing map values done with
  | nil =>
    cases values with
    | nil => exact ⟨map, rfl, by simpa using last⟩
    | cons value rest => cases reads
  | cons text others ih =>
    cases values with
    | nil => cases reads
    | cons value rest =>
      simp only [List.map_cons, List.cons.injEq] at reads
      have next : (map.append key value).entries = before ++ [(key, done ++ [value])] := by
        rw [HeaderMap.append_entries, last, HeaderMap.appendTo_last absent]
      obtain ⟨full, appended, entries⟩ := ih reads.2 next
      refine ⟨full, ?_, by simpa using entries⟩
      simpa only [appendValues, reads.1] using appended

theorem appendValues_absent (name : String) {key : HeaderName} {texts : List String} {values : List HeaderValue}
    {map : HeaderMap} (reads : texts.map HeaderValue.ofText? = values.map some) (some : values ≠ [])
    (absent : key ∉ map.entries.map (·.1)) :
    ∃ full, appendValues name key map texts = (full, none) ∧ full.entries = map.entries ++ [(key, values)] := by
  cases values with
  | nil => exact absurd rfl some
  | cons value rest =>
    cases texts with
    | nil => cases reads
    | cons text others =>
      simp only [List.map_cons, List.cons.injEq] at reads
      have next : (map.append key value).entries = map.entries ++ [(key, [value])] := HeaderMap.appendTo_absent absent
      obtain ⟨full, appended, entries⟩ := appendValues_last name reads.2 next absent
      refine ⟨full, ?_, entries⟩
      simpa only [appendValues, reads.1] using appended

theorem appendEntries_encodes (map : HeaderMap) {sent : List (HeaderName × List HeaderValue)}
    (encodes : List.Forall₂ Encodes entries sent) (filled : ∀ entry ∈ sent, entry.2 ≠ [])
    (distinct : ((map.entries ++ sent).map (·.1)).Nodup) :
    ∃ full, appendEntries map entries = (full, none) ∧ full.entries = map.entries ++ sent := by
  induction encodes generalizing map with
  | nil => exact ⟨map, rfl, by simp⟩
  | @cons entry first others rest encodes _ ih =>
    have absent : first.1 ∉ map.entries.map (·.1) := not_mem_of_nodup_append distinct
    obtain ⟨next, added, next_entries⟩ := appendValues_absent entry.1 encodes.values (filled first (by simp)) absent
    have further : ((next.entries ++ rest).map (·.1)).Nodup := by
      rw [next_entries]
      simpa using distinct
    obtain ⟨full, appended, full_entries⟩ := ih next (fun entry member => filled entry (by simp [member])) further
    refine ⟨full, ?_, ?_⟩
    · simp only [appendEntries, encodes.name, added, appended]
    · rw [full_entries, next_entries]
      simp

/-- A map that is entry by entry what the collection encodes to is what the collection is translated to. -/
theorem toHeaderMap_encodes {map : HeaderMap} (encodes : List.Forall₂ Encodes headers.entries map.entries) :
    headers.toHeaderMap = .ok map := by
  obtain ⟨full, appended, entries⟩ := appendEntries_encodes .empty encodes map.filled map.distinct
  obtain rfl : full = map := HeaderMap.ext entries
  rw [toHeaderMap, appendTo, appended]

theorem decodeEntry_encodes (entry : HeaderName × List HeaderValue) :
    Encodes (decodeEntry entry) (entry.1, entry.2.map HeaderValue.lossy) :=
  ⟨HeaderName.ofText?_text entry.1, by simp [decodeEntry, HeaderValue.ofText?_text]⟩

theorem toHeaderMap_ofHeaderMap (map : HeaderMap) : (ofHeaderMap map).toHeaderMap = .ok map.lossy := by
  apply toHeaderMap_encodes
  rw [ofHeaderMap_entries, HeaderMap.lossy, List.forall₂_map_left_iff, List.forall₂_map_right_iff, List.forall₂_same]
  exact fun entry _ => decodeEntry_encodes entry

/-- Every name is a token and every value is legal, whatever their lengths. -/
def Grammatical (headers : Headers) : Prop :=
  ∀ entry ∈ headers.entries, HeaderName.IsToken entry.1 ∧ ∀ value ∈ entry.2, HeaderValue.Admits value.toList

/-- Every name is a token of fitting length and every value is legal. -/
def Sendable (headers : Headers) : Prop :=
  ∀ entry ∈ headers.entries, HeaderName.IsName entry.1 ∧ ∀ value ∈ entry.2, HeaderValue.Admits value.toList

instance (headers : Headers) : Decidable headers.Sendable :=
  inferInstanceAs (Decidable (∀ entry ∈ headers.entries, HeaderName.IsName entry.1 ∧
    ∀ value ∈ entry.2, HeaderValue.Admits value.toList))

def lowerEntry (entry : String × List String) : String × List String := (HeaderName.lowerText entry.1, entry.2)

/-- The collection with its names in lower case. -/
def lowered (headers : Headers) : Headers where
  entries := headers.entries.map lowerEntry
  distinct := by
    have keys : (headers.entries.map lowerEntry).map (key ·.1) = headers.entries.map (key ·.1) := by
      simp [lowerEntry, HeaderName.lowerText, key, Ascii.lower_lower]
    exact keys ▸ headers.distinct
  filled := by
    intro entry member
    obtain ⟨original, inside, rfl⟩ := List.mem_map.1 member
    exact headers.filled original inside

def spelled : Headers := (((empty.add "X-Trace" "a").add "Vary" "é").add "x-trace" "b")

/-- The first value is no UTF-8. -/
def latin : HeaderMap :=
  ((HeaderMap.empty.append .contentType ⟨[0x61, 0xE9], by decide⟩).append .setCookie ⟨[0x62], by decide⟩).append
    .contentType ⟨[0x63], by decide⟩

section Overlong

variable {length : Nat}

/-- One header, whose name is of the given length. -/
def repeated (length : Nat) : Headers := empty.add (String.ofList (List.replicate length 'a')) "v"

theorem repeated_entries : (repeated length).entries = [(String.ofList (List.replicate length 'a'), ["v"])] := rfl

theorem repeated_grammatical (some : length ≠ 0) : (repeated length).Grammatical := by
  have token : Ascii.AllTchar (List.replicate length 'a') := by
    intro c member
    rw [List.eq_of_mem_replicate member]
    decide
  rw [Grammatical, repeated_entries, List.forall_mem_singleton, HeaderName.IsToken, String.toList_ofList]
  exact ⟨⟨by simpa using some, token⟩, List.forall_mem_singleton.2 (by decide)⟩

theorem repeated_appendTo (long : 65535 < length) (map : HeaderMap) : (repeated length).appendTo map =
    (map, some (.invalidHeader (String.ofList (List.replicate length 'a') ++ ": invalid HTTP header name"))) := by
  have refused : HeaderName.ofText? (String.ofList (List.replicate length 'a')) = none := by
    rw [← Option.not_isSome_iff_eq_none, HeaderName.ofText?_isSome_iff]
    rintro ⟨-, short⟩
    rw [String.toList_ofList, List.length_replicate] at short
    exact absurd short (Nat.not_le_of_lt long)
  rw [appendTo, repeated_entries, appendEntries, refused, String.append_assoc]
  rfl

theorem repeated_toHeaderMap (long : 65535 < length) : (repeated length).toHeaderMap =
    .error (.invalidHeader (String.ofList (List.replicate length 'a') ++ ": invalid HTTP header name")) := by
  rw [toHeaderMap, repeated_appendTo long]

end Overlong

end Headers

end Sluice
