import Mathlib.Data.Set.Card
import Mathlib.Logic.Function.Basic
import Sluice.Proofs.Headers.Translation

/-! A collection of headers against a reference that has no order: a table from lower-case names to fields, each of
which knows when and in which spelling it was made. Through all changes the collection lists the fields of the table
by the times when they were made, so what is asked of it is answered from the table. -/

set_option autoImplicit false

namespace Sluice

inductive Headers.Change where
  | add (name value : String)
  | addAll (name : String) (values : List String)
  | set (name value : String)
  | remove (name : String)

namespace Headers

def change (headers : Headers) : Change → Headers
  | .add name value => headers.add name value
  | .addAll name values => headers.addAll name values
  | .set name value => headers.set name value
  | .remove name => (headers.remove name).2

def changes (headers : Headers) (list : List Change) : Headers := list.foldl change headers

end Headers

structure Multimap.Field where
  /-- The time when the field was made. -/
  since : Nat
  /-- The name as it was given then. -/
  spelling : String
  values : List String
  deriving DecidableEq

/-- The reference. -/
structure Multimap where
  clock : Nat
  field : List Char → Option Multimap.Field

namespace Multimap

open Headers (key Change)

def empty : Multimap := ⟨0, fun _ => none⟩

def values (map : Multimap) (name : String) : List String := ((map.field (key name)).map (·.values)).getD []

/-- Gives a name its values. A field that is there keeps its time and its spelling; else one is made. -/
def store (map : Multimap) (name : String) (values : List String) : Multimap where
  clock := map.clock + 1
  field := Function.update map.field (key name) <| some <|
    match map.field (key name) with
    | some field => { field with values }
    | none => ⟨map.clock, name, values⟩

def change (map : Multimap) : Change → Multimap
  | .add name value => map.store name (map.values name ++ [value])
  | .addAll name values => if values = [] then map else map.store name (map.values name ++ values)
  | .set name value => map.store name [value]
  | .remove name => { map with field := Function.update map.field (key name) none }

def changes (map : Multimap) (list : List Change) : Multimap := list.foldl change map

def Field.entry (field : Field) : String × List String := (field.spelling, field.values)

end Multimap

namespace Headers

open Multimap (Field)

variable {headers after : Headers} {map : Multimap} {fields : List Field} {entries : List (String × List String)}
  {name : String}

theorem alter_present {update : List String → List String} {fresh : List String}
    (distinct : (entries.map (key ·.1)).Nodup) (present : key name ∈ entries.map (key ·.1)) :
    alter name update fresh entries =
      entries.map fun entry => if key entry.1 = key name then (entry.1, update entry.2) else entry := by
  induction entries with
  | nil => cases present
  | cons entry rest ih =>
    obtain ⟨other, values⟩ := entry
    rw [List.map_cons, List.nodup_cons] at distinct
    rw [alter, List.map_cons]
    by_cases same : key other = key name
    · -- the name is met only here, so the rest stays as it is
      have untouched : ∀ entry ∈ rest, (if key entry.1 = key name then (entry.1, update entry.2) else entry) = entry := by
        intro entry member
        rw [if_neg fun also => distinct.1 (List.mem_map.2 ⟨entry, member, also.trans same.symm⟩)]
      rw [if_pos (sameName_iff.2 same), if_pos same, List.map_congr_left untouched, List.map_id']
    · have further : key name ∈ rest.map (key ·.1) := by
        rcases List.mem_cons.1 present with here | there
        · exact absurd here.symm same
        · exact there
      rw [if_neg fun yes => same (sameName_iff.1 yes), if_neg same, ih distinct.2 further]

theorem eraseP_eq_filter (distinct : (entries.map (key ·.1)).Nodup) :
    entries.eraseP (sameName ·.1 name) = entries.filter fun entry => key entry.1 ≠ key name := by
  induction entries with
  | nil => rfl
  | cons entry rest ih =>
    rw [List.map_cons, List.nodup_cons] at distinct
    by_cases same : key entry.1 = key name
    · have others : ∀ other ∈ rest, decide (key other.1 ≠ key name) = true := by
        intro other member
        rw [decide_eq_true_eq]
        exact fun also => distinct.1 (List.mem_map.2 ⟨other, member, also.trans same.symm⟩)
      have here : sameName entry.1 name = true := sameName_iff.2 same
      rw [List.filter_cons_of_neg (by simpa using same), List.filter_eq_self.2 others]
      simp [here]
    · have elsewhere : sameName entry.1 name = false := Bool.eq_false_iff.2 fun yes => same (sameName_iff.1 yes)
      rw [List.filter_cons_of_pos (by simpa using same), ← ih distinct.2]
      simp [elsewhere]

/-- The collection lists the fields of the table, the older ones first. -/
structure Lists (headers : Headers) (map : Multimap) (fields : List Field) : Prop where
  entries : headers.entries = fields.map Field.entry
  complete : ∀ k field, map.field k = some field ↔ field ∈ fields ∧ key field.spelling = k
  inOrder : fields.Pairwise (·.since < ·.since)
  past : ∀ field ∈ fields, field.since < map.clock

namespace Lists

theorem empty : Lists empty .empty [] where
  entries := rfl
  complete k field := by simp [Multimap.empty]
  inOrder := .nil
  past := nofun

theorem field_eq (lists : headers.Lists map fields) {field : Field} (member : field ∈ fields) :
    map.field (key field.spelling) = some field := (lists.complete _ field).2 ⟨member, rfl⟩

theorem mem_keys_iff (lists : headers.Lists map fields) :
    key name ∈ headers.entries.map (key ·.1) ↔ ∃ field, map.field (key name) = some field := by
  simp only [lists.entries, List.map_map, List.mem_map, lists.complete]
  rfl

/-- A lookup by name finds the field of the table. -/
theorem find? (lists : headers.Lists map fields) (name : String) :
    headers.entries.find? (sameName ·.1 name) = (map.field (key name)).map Field.entry := by
  rw [lists.entries, List.find?_map]
  congr 1
  cases first : fields.find? ((sameName ·.1 name) ∘ Field.entry) with
  | some field =>
    have same : sameName field.spelling name = true := by simpa [Field.entry] using List.find?_some first
    rw [← sameName_iff.1 same, lists.field_eq (List.mem_of_find?_eq_some first)]
  | none =>
    rw [List.find?_eq_none] at first
    cases found : map.field (key name) with
    | none => rfl
    | some field =>
      obtain ⟨member, same⟩ := (lists.complete _ _).1 found
      exact absurd (sameName_iff.2 same) (first field member)

/-- A name that has no field yet gets the youngest. -/
theorem extend (lists : headers.Lists map fields) {values : List String} (fresh : map.field (key name) = none)
    (added : after.entries = headers.entries ++ [(name, values)]) :
    after.Lists (map.store name values) (fields ++ [⟨map.clock, name, values⟩]) where
  entries := by rw [added, lists.entries, List.map_append]; rfl
  complete k field := by
    by_cases same : k = key name
    · subst same
      have others : ¬ (field ∈ fields ∧ key field.spelling = key name) := by
        rw [← lists.complete, fresh]
        exact nofun
      simp only [Multimap.store, fresh, Function.update_self, Option.some.injEq, List.mem_append, List.mem_singleton,
        or_and_right, others, false_or]
      constructor
      · rintro rfl
        exact ⟨rfl, rfl⟩
      · exact fun made => made.1.symm
    · have newer : ¬ (field = ⟨map.clock, name, values⟩ ∧ key field.spelling = k) := by
        rintro ⟨rfl, rfl⟩
        exact same rfl
      simp only [Multimap.store, Function.update_of_ne same, List.mem_append, List.mem_singleton, or_and_right, newer,
        or_false]
      exact lists.complete k field
  inOrder := by
    rw [List.pairwise_append]
    refine ⟨lists.inOrder, List.pairwise_singleton _ _, ?_⟩
    intro field member other last
    rw [List.mem_singleton] at last
    subst last
    exact lists.past field member
  past := by
    intro field member
    rcases List.mem_append.1 member with old | last
    · exact Nat.lt_succ_of_lt (lists.past field old)
    · rw [List.mem_singleton] at last
      subst last
      exact Nat.lt_succ_self map.clock

/-- The field with other values, if it is the one of the name. -/
def revise (name : String) (values : List String) (field : Field) : Field :=
  if key field.spelling = key name then { field with values } else field

@[simp] theorem revise_since (name : String) (values : List String) (field : Field) :
    (revise name values field).since = field.since := by
  unfold revise
  split <;> rfl

@[simp] theorem revise_spelling (name : String) (values : List String) (field : Field) :
    (revise name values field).spelling = field.spelling := by
  unfold revise
  split <;> rfl

/-- A field that is there gets its values where it is. -/
theorem revised (lists : headers.Lists map fields) {values : List String} {field : Field}
    (found : map.field (key name) = some field)
    (altered : after.entries = headers.entries.map fun entry => if key entry.1 = key name then (entry.1, values) else entry) :
    after.Lists (map.store name values) (fields.map (revise name values)) where
  entries := by
    rw [altered, lists.entries, List.map_map, List.map_map]
    apply List.map_congr_left
    intro other member
    by_cases same : key other.spelling = key name <;> simp [Field.entry, revise, same]
  complete k other := by
    by_cases same : k = key name
    · subst same
      simp only [Multimap.store, found, Function.update_self, Option.some.injEq, List.mem_map]
      constructor
      · rintro rfl
        obtain ⟨member, there⟩ := (lists.complete _ _).1 found
        exact ⟨⟨field, member, by simp [revise, there]⟩, there⟩
      · rintro ⟨⟨old, member, rfl⟩, there⟩
        rw [revise_spelling] at there
        -- only one field has the name
        have only := lists.field_eq member
        rw [there, found] at only
        cases only
        simp [revise, there]
    · simp only [Multimap.store, Function.update_of_ne same, lists.complete, List.mem_map]
      constructor
      · rintro ⟨member, rfl⟩
        exact ⟨⟨other, member, by simp [revise, same]⟩, rfl⟩
      · rintro ⟨⟨old, member, rfl⟩, rfl⟩
        rw [revise_spelling] at same
        simpa [revise, same] using member
  inOrder := by
    rw [List.pairwise_map]
    simpa using lists.inOrder
  past := by
    intro other member
    obtain ⟨old, inside, rfl⟩ := List.mem_map.1 member
    rw [revise_since]
    exact Nat.lt_succ_of_lt (lists.past old inside)

/-- To alter the entry of a name is to store its values. -/
theorem alter (lists : headers.Lists map fields) (update : List String → List String)
    (altered : after.entries = Headers.alter name update (update []) headers.entries) :
    ∃ later, after.Lists (map.store name (update (map.values name))) later := by
  cases found : map.field (key name) with
  | none =>
    have absent : key name ∉ headers.entries.map (key ·.1) := by simp [lists.mem_keys_iff, found]
    rw [alter_absent absent] at altered
    have none : map.values name = [] := by simp [Multimap.values, found]
    rw [none]
    exact ⟨_, lists.extend found altered⟩
  | some field =>
    have present : key name ∈ headers.entries.map (key ·.1) := lists.mem_keys_iff.2 ⟨field, found⟩
    have some : map.values name = field.values := by simp [Multimap.values, found]
    rw [alter_present headers.distinct present] at altered
    refine ⟨_, lists.revised found (altered.trans ?_)⟩
    apply List.map_congr_left
    intro entry member
    rw [lists.entries] at member
    obtain ⟨other, inside, rfl⟩ := List.mem_map.1 member
    by_cases same : key other.spelling = key name
    · have only := lists.field_eq inside
      rw [same, found] at only
      cases only
      simp [Field.entry, some, same]
    · simp [Field.entry, same]

theorem remove (lists : headers.Lists map fields) (name : String) :
    (headers.remove name).2.Lists (map.change (.remove name))
      (fields.filter fun field => key field.spelling ≠ key name) where
  entries := by
    change headers.entries.eraseP (sameName ·.1 name) = _
    rw [eraseP_eq_filter headers.distinct, lists.entries, List.filter_map]
    rfl
  complete k field := by
    by_cases same : k = key name
    · subst same
      simp [Multimap.change]
    · simp only [Multimap.change, Function.update_of_ne same, lists.complete, List.mem_filter, decide_eq_true_eq]
      constructor
      · rintro ⟨member, rfl⟩
        exact ⟨⟨member, same⟩, rfl⟩
      · exact fun kept => ⟨kept.1.1, kept.2⟩
  inOrder := lists.inOrder.filter _
  past := fun field member => lists.past field (List.mem_of_mem_filter member)

/-- One change. -/
theorem change (lists : headers.Lists map fields) (change : Change) :
    ∃ later, (headers.change change).Lists (map.change change) later := by
  cases change with
  | add name value => exact lists.alter (· ++ [value]) rfl
  | addAll name values =>
    by_cases none : values = []
    · subst none
      exact ⟨fields, lists⟩
    · rw [Multimap.change, if_neg none]
      exact lists.alter (· ++ values) (addAll_entries headers name none)
  | set name value => exact lists.alter (fun _ => [value]) rfl
  | remove name => exact ⟨_, lists.remove name⟩

theorem changes (lists : headers.Lists map fields) (list : List Change) :
    ∃ later, (headers.changes list).Lists (map.changes list) later := by
  induction list generalizing headers map fields with
  | nil => exact ⟨fields, lists⟩
  | cons first rest ih =>
    obtain ⟨between, changed⟩ := lists.change first
    exact ih changed

theorem getAll_eq (lists : headers.Lists map fields) (name : String) : headers.getAll name = map.values name := by
  rw [Headers.getAll, lists.find?, Multimap.values, Option.map_map]
  rfl

theorem contains_eq (lists : headers.Lists map fields) (name : String) :
    headers.contains name = (map.field (key name)).isSome := by
  rw [Headers.contains, ← List.isSome_find?, lists.find?, Option.isSome_map]

theorem size_eq (lists : headers.Lists map fields) : headers.size = {k | (map.field k).isSome}.ncard := by
  have keys : headers.entries.map (key ·.1) = fields.map (key ·.spelling) := by
    rw [lists.entries, List.map_map]
    rfl
  have held : {k | (map.field k).isSome} = ↑(fields.map (key ·.spelling)).toFinset := by
    ext k
    simp [Option.isSome_iff_exists, lists.complete]
  rw [held, Set.ncard_coe_finset, List.toFinset_card_of_nodup (keys ▸ headers.distinct), ← keys, List.length_map]
  rfl

theorem names_eq (lists : headers.Lists map fields) : headers.names = fields.map (·.spelling) := by
  rw [Headers.names, lists.entries, List.map_map]
  rfl

/-- What is removed is the field of the table. -/
theorem removed (lists : headers.Lists map fields) (name : String) :
    headers.entries.Perm ((map.field (key name)).toList.map Field.entry ++ (headers.remove name).2.entries) := by
  change headers.entries.Perm (_ ++ headers.entries.eraseP (sameName ·.1 name))
  have found := lists.find? name
  cases held : map.field (key name) with
  | none =>
    rw [held, Option.map_none, List.find?_eq_none] at found
    rw [List.eraseP_of_forall_not found]
    exact .refl _
  | some field =>
    rw [held, Option.map_some] at found
    obtain ⟨same, before, rest, split, others⟩ := List.find?_eq_some_iff_append.1 found
    have kept : headers.entries.eraseP (sameName ·.1 name) = before ++ rest := by
      rw [split, List.eraseP_append_right _ fun entry member => by simpa using others entry member]
      simp [same]
    rw [kept, split]
    exact List.perm_middle

end Lists

theorem names_set (present : headers.contains name = true) (value : String) :
    (headers.set name value).names = headers.names := by
  have among : key name ∈ headers.entries.map (key ·.1) := by
    obtain ⟨entry, member, same⟩ := List.any_eq_true.1 present
    exact List.mem_map.2 ⟨entry, member, sameName_iff.1 same⟩
  change (Headers.alter name _ _ headers.entries).map (·.1) = headers.entries.map (·.1)
  rw [alter_present headers.distinct among, List.map_map]
  apply List.map_congr_left
  intro entry member
  rw [Function.comp_apply]
  split <;> rfl

/-- The collection is the table, in order. -/
structure Follows (headers : Headers) (map : Multimap) : Prop where
  /-- No two names are equal up to case. -/
  distinct : headers.entries.Pairwise fun first second => sameName first.1 second.1 = false
  filled : ∀ entry ∈ headers.entries, entry.2 ≠ []
  /-- In whatever spelling a name is asked for, the answer is the one of the table. -/
  getAll : ∀ name, headers.getAll name = map.values name
  getFirst? : ∀ name, headers.getFirst? name = (map.values name).head?
  contains : ∀ name, headers.contains name = (map.field (key name)).isSome
  size : headers.size = {k | (map.field k).isSome}.ncard
  /-- The names stand in the order in which their fields were made, each as it was spelled then. -/
  names : ∃ fields : List Field, headers.entries = fields.map Field.entry ∧ headers.names = fields.map (·.spelling) ∧
    fields.Pairwise (·.since < ·.since) ∧ ∀ k field, map.field k = some field ↔ field ∈ fields ∧ key field.spelling = k
  /-- What is given when a name is removed are the values of the table. What the collection loses is the field, and the
  rest stays. -/
  remove : ∀ name, (headers.remove name).1 = map.values name ∧
    headers.entries.Perm ((map.field (key name)).toList.map Field.entry ++ (headers.remove name).2.entries)
  /-- To set a name that is there moves nothing and respells nothing. -/
  set : ∀ name value, headers.contains name = true → (headers.set name value).names = headers.names

/-- Through every sequence of changes a collection that begins empty is the reference that goes through the same
changes, in order. -/
theorem follows_reference (changes : List Change) :
    (empty.changes changes).Follows (Multimap.empty.changes changes) := by
  obtain ⟨fields, lists⟩ := Lists.empty.changes changes
  generalize empty.changes changes = headers at lists ⊢
  exact {
    distinct := by
      have distinct := headers.distinct
      rw [List.Nodup, List.pairwise_map] at distinct
      exact distinct.imp fun different => Bool.eq_false_iff.2 fun same => different (sameName_iff.1 same)
    filled := headers.filled
    getAll := lists.getAll_eq
    getFirst? := fun name => congrArg List.head? (lists.getAll_eq name)
    contains := lists.contains_eq
    size := lists.size_eq
    names := ⟨fields, lists.entries, lists.names_eq, lists.inOrder, lists.complete⟩
    remove := fun name => ⟨lists.getAll_eq name, lists.removed name⟩
    set := fun name value present => names_set present value }

/-- A name that is removed and comes back in another spelling comes last; one that is set stays where it is. -/
theorem respelled_follows :
    let changes : List Change := [.add "Accept" "a", .add "X-Trace" "1", .addAll "accept" ["b", "c"], .addAll "Vary" [],
      .remove "ACCEPT", .set "x-trace" "2", .addAll "ACCEPT" ["d", "e"]]
    (empty.changes changes).names = ["X-Trace", "ACCEPT"] ∧
      (empty.changes changes).getAll "aCCept" = ["d", "e"] ∧
      (empty.changes changes).contains "vary" = false ∧
      ((empty.changes changes).remove "accept").1 = ["d", "e"] ∧
      ((empty.changes changes).set "x-TRACE" "3").names = ["X-Trace", "ACCEPT"] := by
  intro changes
  have follows := follows_reference changes
  have names : (empty.changes changes).names = ["X-Trace", "ACCEPT"] := by decide
  have present : (empty.changes changes).contains "x-TRACE" = true := by decide
  refine ⟨names, (follows.getAll "aCCept").trans (by decide), (follows.contains "vary").trans (by decide),
    (follows.remove "accept").1.trans (by decide), ?_⟩
  exact (follows.set "x-TRACE" "3" present).trans names

end Headers

end Sluice
