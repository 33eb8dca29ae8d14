import Sluice.Fault
import Sluice.Text.Ascii

/-! Header fields as they go over the wire: names are lower-case tokens, values are byte strings without
controls, and a map lists each name once, in the order of first insertion, with its values in order. -/

set_option autoImplicit false

namespace Sluice

/-- A lower-case character of a token. -/
def HeaderName.isNameChar (c : Char) : Bool := Ascii.isTokenChar c && !Ascii.isUpper c

/-- The characters, and so the bytes, that a name may have at most. -/
def HeaderName.maxLength : Nat := 65535

@[ext]
structure HeaderName where
  text : String
  nonempty : text.toList ≠ []
  token : text.toList.all HeaderName.isNameChar = true
  short : text.toList.length ≤ HeaderName.maxLength
  deriving DecidableEq

namespace HeaderName

def ofText? (text : String) : Option HeaderName :=
  let name := String.ofList (Ascii.lower text.toList)
  if h : name.toList ≠ [] ∧ name.toList.all isNameChar = true ∧ name.toList.length ≤ maxLength then
    some ⟨name, h.1, h.2.1, h.2.2⟩
  else none

end HeaderName

/-- A byte that a header value may hold: tab, and every byte from the space on except delete. -/
def HeaderValue.isLegal (b : UInt8) : Bool := b == 0x09 || (0x20 ≤ b && b != 0x7F)

@[ext]
structure HeaderValue where
  bytes : Bytes
  legal : bytes.all HeaderValue.isLegal = true
  deriving DecidableEq

namespace HeaderValue

def ofBytes? (bytes : Bytes) : Option HeaderValue :=
  if h : bytes.all isLegal = true then some ⟨bytes, h⟩ else none

def ofText? (text : String) : Option HeaderValue := ofBytes? (Bytes.ofText text)

end HeaderValue

/-- Every name stands once and has a value. -/
@[ext]
structure HeaderMap where
  entries : List (HeaderName × List HeaderValue)
  distinct : (entries.map (·.1)).Nodup
  filled : ∀ entry ∈ entries, entry.2 ≠ []
  deriving DecidableEq

theorem nodup_append_singleton {α : Type} {items : List α} {item : α} (distinct : items.Nodup)
    (absent : item ∉ items) : (items ++ [item]).Nodup := by
  rw [List.nodup_append]
  refine ⟨distinct, by simp, ?_⟩
  intro other member last alone same
  rw [List.mem_singleton] at alone
  exact absent (alone ▸ same ▸ member)

namespace HeaderMap

def empty : HeaderMap := ⟨[], .nil, nofun⟩

instance : Inhabited HeaderMap := ⟨empty⟩

def appendTo (name : HeaderName) (value : HeaderValue) :
    List (HeaderName × List HeaderValue) → List (HeaderName × List HeaderValue)
  | [] => [(name, [value])]
  | (other, values) :: rest =>
    if other = name then (other, values ++ [value]) :: rest
    else (other, values) :: appendTo name value rest

/-- A name that is there stays where it is; a new one comes last. -/
theorem appendTo_names (name : HeaderName) (value : HeaderValue) (entries : List (HeaderName × List HeaderValue)) :
    (appendTo name value entries).map (·.1) =
      if name ∈ entries.map (·.1) then entries.map (·.1) else entries.map (·.1) ++ [name] := by
  induction entries with
  | nil => simp [appendTo]
  | cons entry rest ih =>
    obtain ⟨other, values⟩ := entry
    unfold appendTo
    by_cases same : other = name
    · simp [same]
    · have different : name ≠ other := fun equal => same equal.symm
      simp only [same, if_false, List.map_cons, ih, List.mem_cons, different, false_or]
      split <;> simp

theorem appendTo_distinct {entries : List (HeaderName × List HeaderValue)} (distinct : (entries.map (·.1)).Nodup)
    (name : HeaderName) (value : HeaderValue) : ((appendTo name value entries).map (·.1)).Nodup := by
  rw [appendTo_names]
  split
  · exact distinct
  · rename_i absent
    exact nodup_append_singleton distinct absent

theorem appendTo_filled {entries : List (HeaderName × List HeaderValue)} (filled : ∀ entry ∈ entries, entry.2 ≠ [])
    (name : HeaderName) (value : HeaderValue) : ∀ entry ∈ appendTo name value entries, entry.2 ≠ [] := by
  induction entries with
  | nil => simp [appendTo]
  | cons entry rest ih =>
    obtain ⟨other, values⟩ := entry
    have others : ∀ entry ∈ rest, entry.2 ≠ [] := fun entry member => filled entry (by simp [member])
    unfold appendTo
    split
    · simpa using others
    · simpa using ⟨filled (other, values) (by simp), fun first second => ih others (first, second)⟩

/-- The names with which a map is full. -/
def maxNames : Nat := 24576

/-- The map takes a further field. A full one takes none, also under a name that it has: to add to it is a panic. -/
def HasRoom (map : HeaderMap) : Prop := map.entries.length < maxNames

instance (map : HeaderMap) : Decidable map.HasRoom := inferInstanceAs (Decidable (_ < _))

/-- Adds a value after those of the same name, if the map has room; for a full map the result has no meaning. A name
never goes, so a map that has room was at no time full. -/
def append (map : HeaderMap) (name : HeaderName) (value : HeaderValue) : HeaderMap :=
  ⟨appendTo name value map.entries, appendTo_distinct map.distinct name value, appendTo_filled map.filled name value⟩

def getAll (map : HeaderMap) (name : HeaderName) : List HeaderValue :=
  ((map.entries.find? (·.1 = name)).map (·.2)).getD []

def fields (map : HeaderMap) : List (HeaderName × HeaderValue) :=
  map.entries.flatMap fun (name, values) => values.map (name, ·)

/-- Adds a field given as text and bytes; the name is checked before the value. -/
def appendRaw (map : HeaderMap) (name : String) (value : Bytes) : Except PartFault HeaderMap :=
  match HeaderName.ofText? name, HeaderValue.ofBytes? value with
  | none, _ => .error .headerName
  | some _, none => .error .headerValue
  | some n, some v => .ok (map.append n v)

/-- A map built field by field; the first bad field fails it. -/
def ofFields (fields : List (String × Bytes)) : Except PartFault HeaderMap :=
  fields.foldlM (fun map (name, value) => map.appendRaw name value) empty

end HeaderMap

/-- Names that the library itself writes. -/
def HeaderName.contentType : HeaderName := ⟨"content-type", by decide, by decide, by decide⟩

def HeaderName.setCookie : HeaderName := ⟨"set-cookie", by decide, by decide, by decide⟩

end Sluice
