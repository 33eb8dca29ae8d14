import Sluice.Http.HeaderMap
import Sluice.Text.Quoted

/-! The header collection that handlers work with: names as text in the spelling that created their entry, looked
up without regard to ASCII case, each with its values in order. -/

set_option autoImplicit false

namespace Sluice

/-- What a name is looked up by. -/
def Headers.key (name : String) : List Char := Ascii.lower name.toList

/-- Every name stands once, in whatever case, and has a value. -/
@[ext]
structure Headers where
  entries : List (String × List String)
  distinct : (entries.map (Headers.key ·.1)).Nodup
  filled : ∀ entry ∈ entries, entry.2 ≠ []
  deriving DecidableEq, Repr

namespace Headers

def empty : Headers := ⟨[], .nil, nofun⟩

instance : Inhabited Headers := ⟨empty⟩

def sameName (a b : String) : Bool := Ascii.sameText a.toList b.toList

theorem sameName_iff {a b : String} : sameName a b = true ↔ key a = key b := beq_iff_eq

/-- Changes the values of the entry of a name; without one, appends an entry with the given values. -/
def alter (name : String) (change : List String → List String) (fresh : List String) :
    List (String × List String) → List (String × List String)
  | [] => [(name, fresh)]
  | (other, values) :: rest =>
    if sameName other name then (other, change values) :: rest
    else (other, values) :: alter name change fresh rest

section Alter

variable {entries : List (String × List String)} {name : String} {change : List String → List String}
  {fresh : List String}

/-- A name that is there stays where it is; a new one comes last. -/
theorem alter_keys : (alter name change fresh entries).map (key ·.1) =
    if key name ∈ entries.map (key ·.1) then entries.map (key ·.1) else entries.map (key ·.1) ++ [key name] := by
  induction entries with
  | nil => simp [alter]
  | cons entry rest ih =>
    obtain ⟨other, values⟩ := entry
    unfold alter
    by_cases same : sameName other name = true
    · simp [same, sameName_iff.1 same]
    · have different : key name ≠ key other := fun equal => same (sameName_iff.2 equal.symm)
      rw [if_neg same]
      simp only [List.map_cons, ih, List.mem_cons, different, false_or]
      split <;> simp

theorem alter_distinct (distinct : (entries.map (key ·.1)).Nodup) :
    ((alter name change fresh entries).map (key ·.1)).Nodup := by
  rw [alter_keys]
  split
  · exact distinct
  · rename_i absent
    exact nodup_append_singleton distinct absent

theorem alter_filled (filled : ∀ entry ∈ entries, entry.2 ≠ []) (begun : fresh ≠ [])
    (kept : ∀ values, values ≠ [] → change values ≠ []) :
    ∀ entry ∈ alter name change fresh entries, entry.2 ≠ [] := by
  induction entries with
  | nil => simpa [alter] using begun
  | cons entry rest ih =>
    obtain ⟨other, values⟩ := entry
    have first : values ≠ [] := filled (other, values) (by simp)
    have others : ∀ entry ∈ rest, entry.2 ≠ [] := fun entry member => filled entry (by simp [member])
    unfold alter
    split
    · simpa using ⟨kept values first, fun first second => others (first, second)⟩
    · simpa using ⟨first, fun first second => ih others (first, second)⟩

end Alter

/-- Adds values after those already there; adding none changes nothing. -/
def addAll (headers : Headers) (name : String) (values : List String) : Headers :=
  if empty : values.isEmpty = true then headers
  else
    have some : values ≠ [] := fun none => empty (none ▸ rfl)
    ⟨alter name (· ++ values) values headers.entries, alter_distinct headers.distinct,
      alter_filled headers.filled some fun _ _ => List.append_ne_nil_of_right_ne_nil _ some⟩

def add (headers : Headers) (name value : String) : Headers := headers.addAll name [value]

/-- Replaces the values of a name; the entry keeps its place and its spelling. -/
def set (headers : Headers) (name value : String) : Headers :=
  ⟨alter name (fun _ => [value]) [value] headers.entries, alter_distinct headers.distinct,
    alter_filled headers.filled (List.cons_ne_nil _ _) fun _ _ => List.cons_ne_nil _ _⟩

def getAll (headers : Headers) (name : String) : List String :=
  ((headers.entries.find? (sameName ·.1 name)).map (·.2)).getD []

def getFirst? (headers : Headers) (name : String) : Option String := (headers.getAll name).head?

def contains (headers : Headers) (name : String) : Bool := headers.entries.any (sameName ·.1 name)

/-- Takes the entry of a name out and gives its values. -/
def remove (headers : Headers) (name : String) : List String × Headers :=
  (headers.getAll name, ⟨headers.entries.eraseP (sameName ·.1 name),
    headers.distinct.sublist (List.eraseP_sublist.map _),
    fun _ member => headers.filled _ (List.mem_of_mem_eraseP member)⟩)

def size (headers : Headers) : Nat := headers.entries.length

def names (headers : Headers) : List String := headers.entries.map (·.1)

/-- Adds the values of one name to a map up to the first illegal one. -/
def appendValues (name : String) (key : HeaderName) (map : HeaderMap) :
    List String → HeaderMap × Option Fault
  | [] => (map, none)
  | value :: rest =>
    match HeaderValue.ofText? value with
    | none => (map, some (.invalidHeader (name ++ ": " ++ PartFault.headerValue.message)))
    | some v => appendValues name key (map.append key v) rest

/-- Adds entries to a map up to the first illegal name or value. -/
def appendEntries (map : HeaderMap) : List (String × List String) → HeaderMap × Option Fault
  | [] => (map, none)
  | (name, values) :: rest =>
    match HeaderName.ofText? name with
    | none => (map, some (.invalidHeader (name ++ ": " ++ PartFault.headerName.message)))
    | some key =>
      match appendValues name key map values with
      | (map, none) => appendEntries map rest
      | (map, some fault) => (map, some fault)

/-- Encodes the collection after what a map already holds. On failure the map keeps what was added before. -/
def appendTo (headers : Headers) (map : HeaderMap) : HeaderMap × Option Fault :=
  appendEntries map headers.entries

def toHeaderMap (headers : Headers) : Except Fault HeaderMap :=
  match headers.appendTo HeaderMap.empty with
  | (map, none) => .ok map
  | (_, some fault) => .error fault

/-- Decodes a map; values that are not UTF-8 get replacement characters. -/
def ofHeaderMap (map : HeaderMap) : Headers :=
  map.fields.foldl (fun headers (name, value) =>
    headers.add name.text (Bytes.toTextLossy value.bytes)) empty

def outline (headers : Headers) : Text.Outline :=
  .table (headers.entries.map fun (name, values) => (.text name, .list (values.map .text)))

end Headers

end Sluice
