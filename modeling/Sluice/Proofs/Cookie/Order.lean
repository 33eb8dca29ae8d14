import Mathlib.Data.List.Induction
import Mathlib.Data.List.Nodup
import Sluice.Cookie.Jar
import Sluice.Http.HeaderMap

/-! The order of the cookies in a map. A map lists its names in the order in which they first came and keeps the cookies
of a name together, in the order in which they were added. So every cookie that was added is listed once; but they are
listed in the order in which they were added only as long as no name comes back after another one. -/

set_option autoImplicit false

namespace Sluice

namespace CookieMap

variable {α : Type} {map : CookieMap α} {added : List (String × α)} {name : String}

/-- Adds cookies one after another, each under a name. -/
def addAll (map : CookieMap α) (added : List (String × α)) : CookieMap α :=
  added.foldl (fun map entry => map.add entry.1 entry.2) map

/-- The cookies that were added under a name, in order. -/
def under (name : String) (added : List (String × α)) : List α := (added.filter (·.1 = name)).map (·.2)

/-- No name comes back after another one. -/
def Undivided (names : List String) : Prop := ∀ name other, [name, other, name].Sublist names → other = name

theorem addAll_concat (map : CookieMap α) (added : List (String × α)) (entry : String × α) :
    map.addAll (added ++ [entry]) = (map.addAll added).add entry.1 entry.2 := by
  simp [addAll]

theorem under_concat (name : String) (added : List (String × α)) (entry : String × α) :
    under name (added ++ [entry]) = under name added ++ if entry.1 = name then [entry.2] else [] := by
  unfold under
  split <;> simp_all

theorem under_eq_nil_iff : under name added = [] ↔ name ∉ added.map (·.1) := by
  simp only [under, List.map_eq_nil_iff, List.filter_eq_nil_iff, List.mem_map, decide_eq_true_eq]
  constructor
  · rintro none ⟨entry, member, same⟩
    exact none entry member same
  · intro none entry member same
    exact none ⟨entry, member, same⟩

/-- A cookie of a new name comes last; any other one goes to the end of the cookies of its name. -/
theorem addTo_cases (name : String) (cookie : α) (entries : List (String × List α)) :
    (name ∉ entries.map (·.1) ∧ addTo name cookie entries = entries ++ [(name, [cookie])]) ∨
    ∃ before cookies after, entries = before ++ (name, cookies) :: after ∧ name ∉ before.map (·.1) ∧
      addTo name cookie entries = before ++ (name, cookies ++ [cookie]) :: after := by
  induction entries with
  | nil => exact .inl ⟨by simp, rfl⟩
  | cons entry rest ih =>
    obtain ⟨other, cookies⟩ := entry
    by_cases same : other = name
    · right
      exact ⟨[], cookies, rest, by simp [same], by simp, by simp [addTo, same]⟩
    · have different : name ≠ other := fun equal => same equal.symm
      obtain ⟨absent, appended⟩ | ⟨before, held, after, rfl, absent, appended⟩ := ih
      · left
        exact ⟨by simpa [different] using absent, by simp [addTo, same, appended]⟩
      · right
        exact ⟨(other, cookies) :: before, held, after, rfl, by simpa [different] using absent,
          by simp [addTo, same, appended]⟩

/-- What the entries of a map tell of the cookies that were added. -/
structure Gathers (entries : List (String × List α)) (added : List (String × α)) : Prop where
  distinct : (entries.map (·.1)).Nodup
  names : entries.map (·.1) = (added.map (·.1)).eraseDups
  cookies : ∀ entry ∈ entries, entry.2 = under entry.1 added

namespace Gathers

variable {entries : List (String × List α)}

theorem addTo (gathers : Gathers entries added) (name : String) (cookie : α) :
    Gathers (addTo name cookie entries) (added ++ [(name, cookie)]) := by
  have known : name ∈ entries.map (·.1) ↔ name ∈ added.map (·.1) := by rw [gathers.names, List.mem_eraseDups]
  -- the cookies of any other name are as they were
  have others : ∀ entry ∈ entries, entry.1 ≠ name → entry.2 = under entry.1 (added ++ [(name, cookie)]) := by
    intro entry member different
    rw [under_concat, if_neg different.symm, List.append_nil]
    exact gathers.cookies entry member
  obtain ⟨absent, appended⟩ | ⟨before, cookies, after, rfl, absent, appended⟩ := addTo_cases name cookie entries
  · have fresh : name ∉ added.map (·.1) := fun member => absent (known.2 member)
    rw [appended]
    refine ⟨?_, ?_, fun entry member => ?_⟩
    · rw [List.map_append]
      exact nodup_append_singleton gathers.distinct absent
    · rw [List.map_append, List.map_append, List.eraseDups_append, gathers.names]
      simp [List.removeAll, fresh, List.eraseDups_cons]
    · rw [List.mem_append, List.mem_singleton] at member
      obtain old | rfl := member
      · exact others entry old fun same => absent (List.mem_map.2 ⟨entry, old, same⟩)
      · simp [under_concat, under_eq_nil_iff.2 fresh]
  · have there : name ∈ added.map (·.1) := known.1 (by simp)
    have distinct := gathers.distinct
    rw [appended]
    refine ⟨by simpa using distinct, ?_, fun entry member => ?_⟩
    · have names := gathers.names
      have later : (added ++ [(name, cookie)]).map (·.1) = added.map (·.1) ++ [name] := List.map_append
      rw [later, List.eraseDups_append, ← names]
      simp [List.removeAll, there]
    · rw [List.map_append, List.map_cons, List.nodup_middle, List.nodup_cons] at distinct
      rw [List.mem_append, List.mem_cons] at member
      obtain early | rfl | late := member
      · exact others entry (by simp [early]) fun same => absent (List.mem_map.2 ⟨entry, early, same⟩)
      · have held := gathers.cookies (name, cookies) (by simp)
        simp only at held
        simp [under_concat, ← held]
      · refine others entry (by simp [late]) fun same => distinct.1 ?_
        rw [← List.map_append]
        exact List.mem_map.2 ⟨entry, by simp [late], same⟩

/-- The cookies that were added leave nothing open about the entries. -/
theorem entries_eq (gathers : Gathers entries added) :
    entries = (added.map (·.1)).eraseDups.map fun name => (name, under name added) := by
  rw [← gathers.names, List.map_map]
  refine (List.map_id entries).symm.trans (List.map_congr_left fun entry member => ?_)
  exact Prod.ext rfl (gathers.cookies entry member)

theorem filled (gathers : Gathers entries added) : ∀ entry ∈ entries, entry.2 ≠ [] := by
  intro entry member
  have named : entry.1 ∈ added.map (·.1) := by
    rw [← List.mem_eraseDups, ← gathers.names]
    exact List.mem_map.2 ⟨entry, member, rfl⟩
  rw [gathers.cookies entry member, Ne, under_eq_nil_iff, not_not]
  exact named

end Gathers

theorem gathers_addAll (added : List (String × α)) : Gathers (empty.addAll added).entries added := by
  induction added using List.reverseRecOn with
  | nil => exact ⟨.nil, rfl, nofun⟩
  | append_singleton earlier entry ih =>
    rw [addAll_concat]
    exact ih.addTo entry.1 entry.2

/-- Each name is listed once, where it first came, with all its cookies in order. -/
theorem values_eq_flatMap (added : List (String × α)) :
    (empty.addAll added).values = (added.map (·.1)).eraseDups.flatMap (under · added) := by
  have gathers := gathers_addAll added
  rw [values, ← gathers.names, List.flatMap_map]
  exact List.flatMap_congr gathers.cookies

/-- The cookies of entries, each with its name. -/
def fieldsOf (entries : List (String × List α)) : List (String × α) :=
  entries.flatMap fun entry => entry.2.map (entry.1, ·)

theorem fieldsOf_append (first second : List (String × List α)) :
    fieldsOf (first ++ second) = fieldsOf first ++ fieldsOf second := List.flatMap_append

theorem fieldsOf_addTo_perm (name : String) (cookie : α) (entries : List (String × List α)) :
    (fieldsOf (addTo name cookie entries)).Perm (fieldsOf entries ++ [(name, cookie)]) := by
  obtain ⟨-, appended⟩ | ⟨before, cookies, after, rfl, -, appended⟩ := addTo_cases name cookie entries
  · simp [appended, fieldsOf]
  · rw [appended]
    simp only [fieldsOf, List.flatMap_append, List.flatMap_cons, List.map_append, List.append_assoc]
    exact (List.perm_append_comm.append_left _).append_left _

/-- Every cookie that was added is listed once, under its name. -/
theorem fields_addAll_perm (added : List (String × α)) : (fieldsOf (empty.addAll added).entries).Perm added := by
  induction added using List.reverseRecOn with
  | nil => exact .refl _
  | append_singleton earlier entry ih =>
    rw [addAll_concat]
    exact (fieldsOf_addTo_perm entry.1 entry.2 _).trans (ih.append_right [entry])

theorem mem_fieldsOf {entries : List (String × List α)} {field : String × α} (member : field ∈ fieldsOf entries) :
    field.1 ∈ entries.map (·.1) := by
  obtain ⟨entry, among, inside⟩ := List.mem_flatMap.1 member
  obtain ⟨cookie, -, rfl⟩ := List.mem_map.1 inside
  exact List.mem_map.2 ⟨entry, among, rfl⟩

theorem name_mem_fieldsOf {entries : List (String × List α)} {entry : String × List α} (member : entry ∈ entries)
    (some : entry.2 ≠ []) : entry.1 ∈ (fieldsOf entries).map (·.1) := by
  obtain ⟨cookie, inside⟩ := List.exists_mem_of_ne_nil entry.2 some
  have paired : (entry.1, cookie) ∈ entry.2.map (entry.1, ·) := List.mem_map.2 ⟨cookie, inside, rfl⟩
  exact List.mem_map.2 ⟨(entry.1, cookie), List.mem_flatMap.2 ⟨entry, member, paired⟩, rfl⟩

theorem Undivided.replicate_append {names : List String} (undivided : Undivided names) (absent : name ∉ names)
    (count : Nat) : Undivided (List.replicate count name ++ names) := by
  intro first other comes
  obtain ⟨front, back, same, inFront, inBack⟩ := List.sublist_append_iff.1 comes
  have alone : ∀ next ∈ front, next = name := fun next member => List.eq_of_mem_replicate (inFront.subset member)
  cases front with
  | nil =>
    rw [List.nil_append] at same
    exact undivided first other (same ▸ inBack)
  | cons head tail =>
    obtain ⟨rfl, rest⟩ : first = head ∧ [other, first] = tail ++ back := by simpa using same
    obtain rfl : first = name := alone first (by simp)
    -- the last of the three is the name again, so none of them is in the back
    rcases tail with _ | ⟨second, _ | ⟨third, more⟩⟩
    · obtain rfl : [other, first] = back := by simpa using rest
      exact absurd (inBack.subset (by simp)) absent
    · obtain ⟨-, rfl⟩ : other = second ∧ [first] = back := by simpa using rest
      exact absurd (inBack.subset (by simp)) absent
    · obtain ⟨rfl, -⟩ : other = second ∧ _ := by simpa using rest
      exact alone other (by simp)

/-- A listing that goes name by name does not come back to a name. -/
theorem undivided_fieldsOf {entries : List (String × List α)} (distinct : (entries.map (·.1)).Nodup) :
    Undivided ((fieldsOf entries).map (·.1)) := by
  induction entries with
  | nil => exact fun name other comes => absurd (List.sublist_nil.1 comes) (List.cons_ne_nil _ _)
  | cons entry rest ih =>
    rw [List.map_cons, List.nodup_cons] at distinct
    have split : (fieldsOf (entry :: rest)).map (·.1) =
        List.replicate entry.2.length entry.1 ++ (fieldsOf rest).map (·.1) := by
      simp [fieldsOf, Function.comp_def]
    rw [split]
    refine (ih distinct.2).replicate_append (fun member => ?_) _
    obtain ⟨field, inside, same⟩ := List.mem_map.1 member
    exact distinct.1 (same ▸ mem_fieldsOf inside)

theorem Undivided.of_append {first second : List String} (undivided : Undivided (first ++ second)) :
    Undivided first := fun name other comes =>
  undivided name other (comes.trans (List.sublist_append_left first second))

/-- As long as no name comes back, each cookie that is added goes to the end of the listing. -/
theorem fields_addAll_of_undivided (undivided : Undivided (added.map (·.1))) :
    fieldsOf (empty.addAll added).entries = added := by
  induction added using List.reverseRecOn with
  | nil => rfl
  | append_singleton earlier entry ih =>
    obtain ⟨name, cookie⟩ := entry
    rw [List.map_append] at undivided
    have listed := ih undivided.of_append
    have gathers := gathers_addAll earlier
    rw [addAll_concat]
    change fieldsOf (addTo name cookie (empty.addAll earlier).entries) = _
    obtain ⟨-, appended⟩ | ⟨before, cookies, after, entries, -, appended⟩ :=
      addTo_cases name cookie (empty.addAll earlier).entries
    · rw [appended, fieldsOf_append, listed]
      rfl
    · rw [appended]
      rw [entries] at gathers listed
      cases after with
      | nil =>
        rw [← listed, fieldsOf_append, fieldsOf_append]
        simp [fieldsOf]
      | cons next rest =>
        -- else the name of the next entry would stand between the cookie and those that it joins
        have filled := gathers.filled
        have front : [name].Sublist ((fieldsOf (before ++ [(name, cookies)])).map (·.1)) :=
          List.singleton_sublist.2 (name_mem_fieldsOf (by simp) (filled (name, cookies) (by simp)))
        have back : [next.1].Sublist ((fieldsOf (next :: rest)).map (·.1)) :=
          List.singleton_sublist.2 (name_mem_fieldsOf (by simp) (filled next (by simp)))
        have same : next.1 = name := by
          refine undivided name next.1 ?_
          rw [← listed, List.append_cons, fieldsOf_append, List.map_append]
          exact (front.append back).append (List.Sublist.refl [name])
        have distinct := gathers.distinct
        simp [List.nodup_append, same] at distinct

theorem map_fieldsOf (map : CookieMap α) : (fieldsOf map.entries).map (·.2) = map.values := by
  simp [fieldsOf, values, List.map_flatMap, Function.comp_def]

theorem values_perm (added : List (String × α)) : (empty.addAll added).values.Perm (added.map (·.2)) := by
  rw [← map_fieldsOf]
  exact (fields_addAll_perm added).map (·.2)

/-- The cookies are listed in the order in which they were added, with their names, exactly if no name comes back. -/
theorem fields_addAll_eq_iff (added : List (String × α)) :
    fieldsOf (empty.addAll added).entries = added ↔ Undivided (added.map (·.1)) := by
  refine ⟨fun listed => ?_, fields_addAll_of_undivided⟩
  have undivided := undivided_fieldsOf (gathers_addAll added).distinct
  rwa [listed] at undivided

theorem values_addAll_of_undivided (undivided : Undivided (added.map (·.1))) :
    (empty.addAll added).values = added.map (·.2) := by
  rw [← map_fieldsOf, fields_addAll_of_undivided undivided]

/-- Fields that are named by their cookies are known by the cookies alone. -/
theorem eq_map_of_keyed {key : α → String} {fields : List (String × α)}
    (keyed : ∀ field ∈ fields, field.1 = key field.2) :
    fields = (fields.map (·.2)).map fun cookie => (key cookie, cookie) := by
  rw [List.map_map]
  conv_lhs => rw [← List.map_id fields]
  refine List.map_congr_left fun field member => ?_
  exact Prod.ext (keyed field member) rfl

/-- Where a cookie is always added under a name of its own, its place tells everything about the names. -/
theorem values_addAll_eq_iff (key : α → String) (keyed : ∀ entry ∈ added, entry.1 = key entry.2) :
    (empty.addAll added).values = added.map (·.2) ↔ Undivided (added.map (·.1)) := by
  refine ⟨fun listed => (fields_addAll_eq_iff added).1 ?_, values_addAll_of_undivided⟩
  have kept : ∀ field ∈ fieldsOf (empty.addAll added).entries, field.1 = key field.2 := fun field member =>
    keyed field ((fields_addAll_perm added).subset member)
  rw [eq_map_of_keyed kept, map_fieldsOf, listed, ← eq_map_of_keyed keyed]

end CookieMap

end Sluice
