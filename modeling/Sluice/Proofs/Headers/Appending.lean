import Sluice.Proofs.Exchange.Queue
import Sluice.Proofs.Headers.Wire
import Sluice.Proofs.Text.Breach

/-! Headers that are added to a map which may hold some already. They are gone through in order, each name before its
values, up to the first item that is not legal. What was gone through is then in the map, after what was there before,
and nothing else is. Each entry adds one name at most, so a map that has room for them all is never full on the way. -/

set_option autoImplicit false

namespace Sluice

namespace HeaderMap

variable {map between full : HeaderMap} {first second : List (String × Bytes)}

theorem getAll_append_of_ne (map : HeaderMap) (value : HeaderValue) {key name : HeaderName} (different : key ≠ name) :
    (map.append key value).getAll name = map.getAll name := by
  unfold getAll
  rw [append_entries]
  induction map.entries with
  | nil => simp [appendTo, different]
  | cons entry rest ih =>
    obtain ⟨other, values⟩ := entry
    rw [appendTo]
    by_cases same : other = key
    · subst same
      simp [different]
    · rw [if_neg same]
      by_cases asked : other = name
      · simp [asked]
      · simpa [asked] using ih

/-- The names as they stand on the wire. -/
def names (map : HeaderMap) : List String := map.wire.map (·.1)

theorem names_append (map : HeaderMap) (key : HeaderName) (value : HeaderValue) :
    (map.append key value).names = if key ∈ map.entries.map (·.1) then map.names else map.names ++ [key.text] := by
  have through (map : HeaderMap) : map.names = (map.entries.map (·.1)).map HeaderName.text := by
    simp [names, wire, Function.comp_def]
  rw [through, append_entries, appendTo_names, through]
  split
  · rfl
  · rw [List.map_append, List.map_singleton]

theorem length_append (map : HeaderMap) (key : HeaderName) (value : HeaderValue) :
    (map.append key value).entries.length =
      if key ∈ map.entries.map (·.1) then map.entries.length else map.entries.length + 1 := by
  rw [append_entries, ← List.length_map (·.1), appendTo_names]
  split <;> simp

theorem mem_append (map : HeaderMap) (key : HeaderName) (value : HeaderValue) :
    key ∈ (map.append key value).entries.map (·.1) := by
  rw [append_entries, appendTo_names]
  split
  · assumption
  · exact List.mem_concat_self

/-- What has become of a map to which fields were added. -/
structure Extends (full map : HeaderMap) (added : List (String × Bytes)) : Prop where
  /-- Under each name the values that were added come after those that were there. -/
  values : ∀ name : HeaderName, (full.getAll name).map HeaderValue.bytes =
    (map.getAll name).map HeaderValue.bytes ++ (added.filter (·.1 = name.text)).map (·.2)
  /-- No name moves, and those that are new come last, in the order in which they were added. -/
  names : ∃ fresh, full.names = map.names ++ fresh ∧ fresh.Sublist (added.map (·.1))

namespace Extends

theorem refl (map : HeaderMap) : map.Extends map [] where
  values := by simp
  names := ⟨[], by simp, List.nil_sublist _⟩

theorem trans (front : between.Extends map first) (back : full.Extends between second) :
    full.Extends map (first ++ second) where
  values name := by
    rw [back.values, front.values, List.filter_append, List.map_append, List.append_assoc]
  names := by
    obtain ⟨early, begun, earlier⟩ := front.names
    obtain ⟨late, ended, later⟩ := back.names
    refine ⟨early ++ late, ?_, ?_⟩
    · rw [ended, begun, List.append_assoc]
    · rw [List.map_append]
      exact earlier.append later

theorem append (map : HeaderMap) (key : HeaderName) (value : HeaderValue) :
    (map.append key value).Extends map [(key.text, value.bytes)] where
  values name := by
    by_cases same : key = name
    · subst same
      simp [getAll_append]
    · have different : key.text ≠ name.text := fun text => same (HeaderName.ext text)
      simp [getAll_append_of_ne map value same, different]
  names := by
    rw [names_append]
    split
    · exact ⟨[], by simp, List.nil_sublist _⟩
    · exact ⟨[key.text], rfl, .refl _⟩

end Extends

end HeaderMap

namespace Headers

open HeaderMap (Extends)

/-- What is looked at, one after another, when headers are encoded. -/
inductive Item where
  | label (name : String)
  | value (name text : String)
  deriving DecidableEq

namespace Item

/-- A name is a token of fitting length, and a value holds legal bytes only. -/
def Legal : Item → Prop
  | .label name => HeaderName.IsName name
  | .value _ text => HeaderValue.Admits text.toList

instance (item : Item) : Decidable item.Legal :=
  match item with
  | .label name => inferInstanceAs (Decidable (HeaderName.IsName name))
  | .value _ text => inferInstanceAs (Decidable (HeaderValue.Admits text.toList))

def fault : Item → Fault
  | .label name => .invalidHeader (name ++ ": " ++ PartFault.headerName.message)
  | .value name _ => .invalidHeader (name ++ ": " ++ PartFault.headerValue.message)

/-- The field that a value makes on the wire. -/
def field? : Item → Option (String × Bytes)
  | .label _ => none
  | .value name text => some (HeaderName.lowerText name, Bytes.ofText text)

end Item

def itemsOf (entry : String × List String) : List Item := .label entry.1 :: entry.2.map (.value entry.1)

/-- Each name is looked at before its values. -/
def items (headers : Headers) : List Item := headers.entries.flatMap itemsOf

def fieldsOf (items : List Item) : List (String × Bytes) := items.filterMap Item.field?

theorem fieldsOf_append (first second : List Item) : fieldsOf (first ++ second) = fieldsOf first ++ fieldsOf second :=
  List.filterMap_append

/-- What may come of items that are added to a map: all of them are in it, or those before the first illegal one. -/
inductive Appended (map : HeaderMap) (items : List Item) : HeaderMap × Option Fault → Prop where
  | all {full : HeaderMap} : (∀ item ∈ items, item.Legal) → full.Extends map (fieldsOf items) →
    Appended map items (full, none)
  | upTo {full : HeaderMap} {before : List Item} {item : Item} : FirstBreach Item.Legal items before item →
    full.Extends map (fieldsOf before) → Appended map items (full, some item.fault)

namespace Appended

variable {map between full : HeaderMap} {items others : List Item} {item : Item} {fault : Fault}
  {result : HeaderMap × Option Fault}

theorem append (front : Appended map items (between, none)) (back : Appended between others result) :
    Appended map (items ++ others) result := by
  cases front with
  | all legal grown =>
    cases back with
    | all legals further =>
      refine .all (List.forall_mem_append.2 ⟨legal, legals⟩) ?_
      rw [fieldsOf_append]
      exact grown.trans further
    | upTo first further =>
      refine .upTo (first.after legal) ?_
      rw [fieldsOf_append]
      exact grown.trans further

theorem stop (front : Appended map items (full, some fault)) (others : List Item) :
    Appended map (items ++ others) (full, some fault) := by
  cases front with
  | upTo first grown => exact .upTo (first.append others) grown

theorem illegal (illegal : ¬ item.Legal) (rest : List Item) : Appended map (item :: rest) (map, some item.fault) :=
  .upTo (.head illegal rest) (.refl map)

theorem label {name : String} (isName : HeaderName.IsName name) (back : Appended map others result) :
    Appended map (.label name :: others) result := by
  have alone : Appended map [.label name] (map, none) := .all (List.forall_mem_singleton.2 isName) (.refl map)
  exact alone.append back

theorem value {name text : String} {key : HeaderName} {value : HeaderValue} (named : HeaderName.ofText? name = some key)
    (read : HeaderValue.ofText? text = some value) (back : Appended (map.append key value) others result) :
    Appended map (.value name text :: others) result := by
  have legal : HeaderValue.Admits text.toList := HeaderValue.ofText?_isSome_iff.1 (by simp [read])
  have alone : Appended map [.value name text] (map.append key value, none) := by
    refine .all (List.forall_mem_singleton.2 legal) ?_
    have field : fieldsOf [.value name text] = [(key.text, value.bytes)] := by
      rw [(HeaderName.ofText?_eq_some_iff.1 named).2, HeaderValue.ofText?_eq_some_iff.1 read]
      rfl
    rw [field]
    exact .append map key value
  exact alone.append back

end Appended

theorem appendValues_appended {name : String} {key : HeaderName} (named : HeaderName.ofText? name = some key)
    (map : HeaderMap) (texts : List String) :
    Appended map (texts.map (.value name)) (appendValues name key map texts) := by
  induction texts generalizing map with
  | nil => exact .all (List.forall_mem_nil _) (.refl map)
  | cons text rest ih =>
    unfold appendValues
    cases read : HeaderValue.ofText? text with
    | none =>
      have illegal : ¬ (Item.value name text).Legal := by
        intro legal
        simpa [read] using HeaderValue.ofText?_isSome_iff.2 legal
      exact .illegal illegal _
    | some value => exact .value named read (ih (map.append key value))

theorem appendEntries_appended (map : HeaderMap) (entries : List (String × List String)) :
    Appended map (entries.flatMap itemsOf) (appendEntries map entries) := by
  induction entries generalizing map with
  | nil => exact .all (List.forall_mem_nil _) (.refl map)
  | cons entry rest ih =>
    obtain ⟨name, values⟩ := entry
    unfold appendEntries
    rw [List.flatMap_cons]
    cases named : HeaderName.ofText? name with
    | none =>
      have illegal : ¬ (Item.label name).Legal := by
        intro isName
        simpa [named] using HeaderName.ofText?_isSome_iff.2 isName
      exact .illegal illegal _
    | some key =>
      have isName : HeaderName.IsName name := (HeaderName.ofText?_eq_some_iff.1 named).1
      have here := Appended.label isName (appendValues_appended named map values)
      simp only
      cases appended : appendValues name key map values with
      | mk between fault =>
        rw [appended] at here
        cases fault with
        | none => exact here.append (ih between)
        | some fault => exact here.stop _

/-- The values of a name that is there add no name. -/
theorem length_appendValues_of_mem (name : String) {key : HeaderName} {map : HeaderMap}
    (present : key ∈ map.entries.map (·.1)) (texts : List String) :
    (appendValues name key map texts).1.entries.length = map.entries.length := by
  induction texts generalizing map with
  | nil => rfl
  | cons text rest ih =>
    unfold appendValues
    cases HeaderValue.ofText? text with
    | none => rfl
    | some value => exact (ih (map.mem_append key value)).trans (by rw [map.length_append, if_pos present])

theorem length_appendValues_le (name : String) (key : HeaderName) (map : HeaderMap) (texts : List String) :
    (appendValues name key map texts).1.entries.length ≤ map.entries.length + 1 := by
  cases texts with
  | nil => exact Nat.le_succ _
  | cons text rest =>
    unfold appendValues
    cases HeaderValue.ofText? text with
    | none => exact Nat.le_succ _
    | some value =>
      -- the first value makes the name, and the others find it there
      rw [length_appendValues_of_mem name (map.mem_append key value), map.length_append]
      split <;> omega

theorem length_appendEntries_le (map : HeaderMap) (entries : List (String × List String)) :
    (appendEntries map entries).1.entries.length ≤ map.entries.length + entries.length := by
  induction entries generalizing map with
  | nil => exact Nat.le_refl _
  | cons entry rest ih =>
    obtain ⟨name, values⟩ := entry
    rw [appendEntries, List.length_cons]
    cases HeaderName.ofText? name with
    | none => exact Nat.le_add_right _ _
    | some key =>
      have first := length_appendValues_le name key map values
      simp only
      cases appended : appendValues name key map values with
      | mk between fault =>
        rw [appended] at first
        cases fault with
        | none =>
          have later := ih between
          simp only at first ⊢
          omega
        | some fault =>
          simp only at first ⊢
          omega

theorem forall_itemsOf_iff (entry : String × List String) : (∀ item ∈ itemsOf entry, item.Legal) ↔
    HeaderName.IsName entry.1 ∧ ∀ text ∈ entry.2, HeaderValue.Admits text.toList := by
  rw [itemsOf, List.forall_mem_cons, List.forall_mem_map]
  rfl

theorem forall_items_iff {headers : Headers} : (∀ item ∈ headers.items, item.Legal) ↔ headers.Sendable := by
  simp only [items, Sendable, ← forall_itemsOf_iff, List.forall_mem_flatMap]

theorem fieldsOf_itemsOf (entry : String × List String) :
    fieldsOf (itemsOf entry) = entry.2.map fun text => (HeaderName.lowerText entry.1, Bytes.ofText text) := by
  rw [fieldsOf, itemsOf, List.filterMap_cons_none rfl, List.filterMap_map]
  exact congrFun List.filterMap_eq_map entry.2

theorem lowerText_eq_iff {name : String} {key : HeaderName} :
    HeaderName.lowerText name = key.text ↔ sameName name key.text = true := by
  rw [sameName_iff, key_text, HeaderName.lowerText, ← String.toList_inj, String.toList_ofList]
  rfl

theorem fieldsOf_itemsOf_filter (entry : String × List String) (name : HeaderName) :
    ((fieldsOf (itemsOf entry)).filter (·.1 = name.text)).map (·.2) =
      if sameName entry.1 name.text = true then entry.2.map Bytes.ofText else [] := by
  rw [fieldsOf_itemsOf, List.filter_map, List.map_map]
  simp only [Function.comp_def, lowerText_eq_iff]
  split
  · rename_i same
    simp [same]
  · rename_i other
    simp [other]

/-- The fields of a name are its values, since no other entry has the name. -/
theorem fieldsOf_filter {entries : List (String × List String)} (distinct : (entries.map (key ·.1)).Nodup)
    (name : HeaderName) :
    ((fieldsOf (entries.flatMap itemsOf)).filter (·.1 = name.text)).map (·.2) =
      (((entries.find? (sameName ·.1 name.text)).map (·.2)).getD []).map Bytes.ofText := by
  induction entries with
  | nil => rfl
  | cons entry rest ih =>
    rw [List.map_cons, List.nodup_cons] at distinct
    rw [List.flatMap_cons, fieldsOf_append, List.filter_append, List.map_append, fieldsOf_itemsOf_filter, ih distinct.2]
    by_cases same : sameName entry.1 name.text = true
    · have others : rest.find? (sameName ·.1 name.text) = none := by
        rw [List.find?_eq_none]
        intro other member also
        have twin : key other.1 = key entry.1 := (sameName_iff.1 also).trans (sameName_iff.1 same).symm
        exact distinct.1 (List.mem_map.2 ⟨other, member, twin⟩)
      simp [same, others]
    · simp [same]

theorem fieldsOf_items_filter (headers : Headers) (name : HeaderName) :
    ((fieldsOf headers.items).filter (·.1 = name.text)).map (·.2) = (headers.getAll name.text).map Bytes.ofText :=
  fieldsOf_filter headers.distinct name

/-- Headers are added to a map that has room for them exactly if every name is a token of fitting length and every value
is legal. The map then has under each name, in lower case, the values it had and after them those of the headers, in
order. If they are not added, the fault tells the name of the first item that is not legal, and the map has what it had
and the values before this item. -/
theorem appends_up_to_breach (headers : Headers) (map : HeaderMap)
    (few : map.entries.length + headers.size < HeaderMap.maxNames) :
    (headers.appendTo map).1.HasRoom ∧
    ((∃ full, headers.appendTo map = (full, none)) ↔ headers.Sendable) ∧
    (∀ full, headers.appendTo map = (full, none) → full.Extends map (fieldsOf headers.items) ∧
      ∀ name : HeaderName, (full.getAll name).map HeaderValue.bytes =
        (map.getAll name).map HeaderValue.bytes ++ (headers.getAll name.text).map Bytes.ofText) ∧
    ∀ full fault, headers.appendTo map = (full, some fault) →
      ∃ before item, FirstBreach Item.Legal headers.items before item ∧ fault = item.fault ∧
        full.Extends map (fieldsOf before) := by
  have appended : Appended map headers.items (headers.appendTo map) := appendEntries_appended map headers.entries
  refine ⟨(length_appendEntries_le map headers.entries).trans_lt few, ?_⟩
  generalize headers.appendTo map = result at appended
  cases appended with
  | @all full legal grown =>
    refine ⟨⟨fun _ => forall_items_iff.1 legal, fun _ => ⟨full, rfl⟩⟩, ?_, nofun⟩
    rintro _ ⟨⟩
    refine ⟨grown, fun name => ?_⟩
    rw [grown.values, fieldsOf_items_filter]
  | @upTo full before item first grown =>
    have illegal : ¬ headers.Sendable := fun sendable => first.broken (forall_items_iff.2 sendable item first.mem)
    refine ⟨⟨nofun, fun sendable => absurd sendable illegal⟩, nofun, ?_⟩
    rintro _ _ ⟨⟩
    exact ⟨before, item, first, rfl, grown⟩

/-- A map that has one of the names already. -/
def varied : HeaderMap := HeaderMap.empty.append ⟨"vary", by decide, by decide, by decide⟩ ⟨Bytes.ofText "a", by decide⟩

def brokenInside : Headers := ((empty.addAll "X-One" ["é"]).addAll "Vary" ["b", "c\nd", "e"]).add "no token" "f"

/-- Neither the value after the broken one nor the name that is no token is looked at. -/
theorem broken_partly_appended :
    varied.entries.length + brokenInside.size < HeaderMap.maxNames ∧ ¬ brokenInside.Sendable ∧ ∃ full,
      brokenInside.appendTo varied = (full, some (.invalidHeader "Vary: failed to parse header value")) ∧
      full.HasRoom ∧ full.Extends varied [("x-one", Bytes.ofText "é"), ("vary", Bytes.ofText "b")] := by
  have few : varied.entries.length + brokenInside.size < HeaderMap.maxNames := by decide
  have failed : (brokenInside.appendTo varied).2 = some (.invalidHeader "Vary: failed to parse header value") := by
    decide +kernel
  have appended : brokenInside.appendTo varied = ((brokenInside.appendTo varied).1, some _) := Prod.ext rfl failed
  obtain ⟨room, sends, -, fails⟩ := appends_up_to_breach brokenInside varied few
  obtain ⟨before, item, first, -, grown⟩ := fails _ _ appended
  have breach : FirstBreach Item.Legal brokenInside.items
      [.label "X-One", .value "X-One" "é", .label "Vary", .value "Vary" "b"] (.value "Vary" "c\nd") :=
    ⟨⟨_, rfl⟩, by decide, by decide⟩
  obtain ⟨rfl, rfl⟩ := first.unique breach
  refine ⟨few, fun sendable => ?_, _, appended, room, grown⟩
  obtain ⟨full, passed⟩ := sends.2 sendable
  rw [passed] at failed
  cases failed

theorem overlong_not_appended :
    (repeated 65536).Grammatical ∧
      (repeated 65536).appendTo varied = (varied, some (.invalidHeader
        (String.ofList (List.replicate 65536 'a') ++ ": invalid HTTP header name"))) ∧
      ¬ ∀ (headers : Headers) (map : HeaderMap),
        (∃ full, headers.appendTo map = (full, none)) ↔ headers.Grammatical := by
  have grammatical : (repeated 65536).Grammatical := repeated_grammatical (by omega)
  have failed := repeated_appendTo (show 65535 < 65536 by omega) varied
  refine ⟨grammatical, failed, fun appends => ?_⟩
  obtain ⟨full, passed⟩ := (appends (repeated 65536) varied).2 grammatical
  rw [failed] at passed
  cases passed

end Headers

end Sluice
