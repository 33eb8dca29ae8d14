import Sluice.Proofs.Headers.Translation

/-! What a collection of headers is on the wire. It yields a map if the two agree entry by entry. Values that are added on
both sides leave it so, and translating does nothing but add, so a map that comes out is the one that is yielded. -/

set_option autoImplicit false

namespace Sluice

/-- The fields as they stand on the wire. -/
def HeaderMap.wire (map : HeaderMap) : List (String × List Bytes) :=
  map.entries.map fun entry => (entry.1.text, entry.2.map HeaderValue.bytes)

namespace Headers

/-- The names in lower case and the values in bytes. -/
def wire (headers : Headers) : List (String × List Bytes) :=
  headers.entries.map fun entry => (HeaderName.lowerText entry.1, entry.2.map Bytes.ofText)

/-- Entry by entry the map is what the collection says. -/
def Yields (headers : Headers) (map : HeaderMap) : Prop := List.Forall₂ Encodes headers.entries map.entries

theorem Encodes.sameName_iff {entry : String × List String} {sent : HeaderName × List HeaderValue} {name : String}
    {key : HeaderName} (encodes : Encodes entry sent) (read : HeaderName.ofText? name = some key) :
    sameName entry.1 name = true ↔ sent.1 = key := by
  have first := (HeaderName.ofText?_eq_some_iff.1 encodes.name).2
  have second := (HeaderName.ofText?_eq_some_iff.1 read).2
  rw [Headers.sameName_iff, HeaderName.ext_iff, first, second, HeaderName.lowerText, HeaderName.lowerText,
    String.ofList_inj]
  rfl

theorem bytes_of_reads {texts : List String} {values : List HeaderValue}
    (reads : texts.map HeaderValue.ofText? = values.map some) :
    values.map HeaderValue.bytes = texts.map Bytes.ofText := by
  induction texts generalizing values with
  | nil =>
    rw [List.map_nil, eq_comm, List.map_eq_nil_iff] at reads
    rw [reads]
    rfl
  | cons text rest ih =>
    obtain ⟨value, later, rfl, read, remains⟩ := List.map_eq_cons_iff.1 reads.symm
    rw [List.map_cons, List.map_cons, HeaderValue.ofText?_eq_some_iff.1 read.symm]
    exact congrArg (_ :: ·) (ih remains.symm)

namespace Yields

variable {headers : Headers} {map full : HeaderMap} {name text : String} {key : HeaderName} {value : HeaderValue}
  {texts : List String}

theorem empty : empty.Yields .empty := .nil

theorem add (yields : headers.Yields map) (named : HeaderName.ofText? name = some key)
    (read : HeaderValue.ofText? text = some value) : (headers.add name text).Yields (map.append key value) := by
  unfold Yields at yields ⊢
  rw [add_entries, HeaderMap.append_entries]
  generalize headers.entries = entries at yields
  generalize map.entries = sent at yields
  induction yields with
  | nil => exact .cons ⟨named, by simp [read]⟩ .nil
  | @cons entry first entries others encodes rest ih =>
    rw [alter, HeaderMap.appendTo]
    by_cases same : first.1 = key
    · rw [if_pos ((encodes.sameName_iff named).2 same), if_pos same]
      exact .cons ⟨encodes.name, by simp [encodes.values, read]⟩ rest
    · rw [if_neg fun alike => same ((encodes.sameName_iff named).1 alike), if_neg same]
      exact .cons encodes ih

theorem appendValues (yields : headers.Yields map) (named : HeaderName.ofText? name = some key)
    (appended : Headers.appendValues name key map texts = (full, none)) : (headers.addAll name texts).Yields full := by
  rw [addAll_eq_foldl]
  induction texts generalizing headers map with
  | nil =>
    cases appended
    exact yields
  | cons text rest ih =>
    unfold Headers.appendValues at appended
    cases read : HeaderValue.ofText? text with
    | none => simp [read] at appended
    | some value =>
      rw [read] at appended
      exact ih (yields.add named read) appended

theorem appendEntries {entries : List (String × List String)} (yields : headers.Yields map)
    (appended : Headers.appendEntries map entries = (full, none)) : (headers.addEntries entries).Yields full := by
  induction entries generalizing headers map with
  | nil =>
    cases appended
    exact yields
  | cons entry rest ih =>
    unfold Headers.appendEntries at appended
    cases named : HeaderName.ofText? entry.1 with
    | none => simp [named] at appended
    | some key =>
      cases first : Headers.appendValues entry.1 key map entry.2 with
      | mk between fault =>
        cases fault with
        | some fault => simp [named, first] at appended
        | none =>
          simp only [named, first] at appended
          exact ih (yields.appendValues named first) appended

/-- A collection is translated to the map that it yields. -/
theorem of_toHeaderMap (translated : headers.toHeaderMap = .ok map) : headers.Yields map := by
  have appended : Headers.appendEntries HeaderMap.empty headers.entries = (map, none) := by
    unfold toHeaderMap appendTo at translated
    cases result : Headers.appendEntries HeaderMap.empty headers.entries with
    | mk full fault =>
      rw [result] at translated
      cases fault <;> cases translated
      rfl
  have same : Headers.empty.addEntries headers.entries = headers :=
    Headers.ext (addEntries_entries headers.filled headers.distinct)
  exact same ▸ Yields.empty.appendEntries appended

theorem length_eq (yields : headers.Yields map) : map.entries.length = headers.size :=
  (List.Forall₂.length_eq yields).symm

theorem wire_eq (yields : headers.Yields map) : map.wire = headers.wire := by
  unfold HeaderMap.wire Headers.wire
  unfold Yields at yields
  generalize headers.entries = entries at yields
  generalize map.entries = sent at yields
  induction yields with
  | nil => rfl
  | cons encodes _ ih =>
    rw [List.map_cons, List.map_cons, ih, bytes_of_reads encodes.values, (HeaderName.ofText?_eq_some_iff.1 encodes.name).2]

theorem getAll_eq (yields : headers.Yields map) (name : HeaderName) :
    (map.getAll name).map HeaderValue.bytes = (headers.getAll name.text).map Bytes.ofText := by
  unfold HeaderMap.getAll Headers.getAll
  unfold Yields at yields
  generalize headers.entries = entries at yields
  generalize map.entries = sent at yields
  induction yields with
  | nil => rfl
  | @cons entry first entries others encodes rest ih =>
    have alike := encodes.sameName_iff (HeaderName.ofText?_text name)
    by_cases same : first.1 = name
    · simpa [alike.2 same, same] using bytes_of_reads encodes.values
    · have different : sameName entry.1 name.text = false := Bool.eq_false_iff.2 fun yes => same (alike.1 yes)
      simpa [different, same] using ih

end Yields

/-- To alter the entry of a name is seen under this name only. -/
theorem find?_alter (name other : String) (change : List String → List String) (fresh : List String)
    (entries : List (String × List String)) :
    ((alter name change fresh entries).find? (sameName ·.1 other)).map (·.2) =
      let found := (entries.find? (sameName ·.1 other)).map (·.2)
      if key other = key name then some (found.elim fresh change) else found := by
  induction entries with
  | nil =>
    by_cases same : key other = key name
    · simp [alter, sameName_iff.2 same.symm, same]
    · have different : sameName name other = false := Bool.eq_false_iff.2 fun yes => same (sameName_iff.1 yes).symm
      simp [alter, different, same]
  | cons entry rest ih =>
    obtain ⟨first, values⟩ := entry
    rw [alter]
    by_cases here : sameName first name = true <;> by_cases asked : sameName first other = true
    · have same : key other = key name := (sameName_iff.1 asked).symm.trans (sameName_iff.1 here)
      simp [here, asked, same]
    · have different : key other ≠ key name := fun same =>
        asked (sameName_iff.2 ((sameName_iff.1 here).trans same.symm))
      simp [here, asked, different]
    · have different : key other ≠ key name := fun same => here (sameName_iff.2 ((sameName_iff.1 asked).trans same))
      simp [here, asked, different]
    · simpa [here, asked] using ih

theorem size_addAll_le (headers : Headers) (name : String) (values : List String) :
    (headers.addAll name values).size ≤ headers.size + 1 := by
  by_cases none : values = []
  · subst none
    exact Nat.le_succ _
  · rw [size, size, addAll_entries headers name none, ← List.length_map (key ·.1), alter_keys]
    split <;> simp

theorem getAll_addAll (headers : Headers) (name other : String) (values : List String) :
    (headers.addAll name values).getAll other =
      headers.getAll other ++ if key other = key name then values else [] := by
  by_cases none : values = []
  · subst none
    simp [addAll]
  · unfold getAll
    rw [addAll_entries headers name none, find?_alter]
    by_cases same : key other = key name
    · cases (headers.entries.find? (sameName ·.1 other)) <;> simp [same]
    · simp [same]

end Headers

end Sluice
