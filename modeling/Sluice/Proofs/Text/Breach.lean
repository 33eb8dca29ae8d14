import Mathlib.Data.List.Basic

/-! The first of several items that breaks a rule, with the items before it. There is one unless every item keeps to the
rule, there is only one, and it stays the first whatever comes after it. -/

set_option autoImplicit false

namespace Sluice

/-- The first item that breaks a rule, and the items before it. -/
structure FirstBreach {α : Type} (rule : α → Prop) (items before : List α) (item : α) : Prop where
  split : ∃ after, items = before ++ item :: after
  kept : ∀ other ∈ before, rule other
  broken : ¬ rule item

namespace FirstBreach

variable {α : Type} {rule : α → Prop} {items others before front : List α} {item next other : α}

theorem head (broken : ¬ rule item) (rest : List α) : FirstBreach rule (item :: rest) [] item :=
  ⟨⟨rest, rfl⟩, List.forall_mem_nil _, broken⟩

theorem mem (first : FirstBreach rule items before item) : item ∈ items := by
  obtain ⟨after, rfl⟩ := first.split
  simp

theorem append (first : FirstBreach rule items before item) (others : List α) :
    FirstBreach rule (items ++ others) before item := by
  obtain ⟨⟨after, rfl⟩, kept, broken⟩ := first
  exact ⟨⟨after ++ others, by simp⟩, kept, broken⟩

theorem after (kept : ∀ other ∈ items, rule other) (first : FirstBreach rule others before item) :
    FirstBreach rule (items ++ others) (items ++ before) item := by
  obtain ⟨⟨rest, rfl⟩, keeps, broken⟩ := first
  exact ⟨⟨rest, by simp⟩, List.forall_mem_append.2 ⟨kept, keeps⟩, broken⟩

/-- An item that breaks the rule is the first one, and one that keeps to it leaves the search to the rest. -/
theorem cases_cons (first : FirstBreach rule (next :: items) before item) :
    (¬ rule next ∧ before = [] ∧ item = next) ∨
      (rule next ∧ ∃ front, before = next :: front ∧ FirstBreach rule items front item) := by
  obtain ⟨⟨after, split⟩, kept, broken⟩ := first
  cases before with
  | nil =>
    obtain ⟨rfl, -⟩ := List.cons_eq_cons.1 split
    exact .inl ⟨broken, rfl, rfl⟩
  | cons met front =>
    obtain ⟨rfl, rest⟩ := List.cons_eq_cons.1 split
    obtain ⟨keeps, others⟩ := List.forall_mem_cons.1 kept
    exact .inr ⟨keeps, front, rfl, ⟨after, rest⟩, others, broken⟩

theorem forall_or_exists (rule : α → Prop) (items : List α) :
    (∀ item ∈ items, rule item) ∨ ∃ before item, FirstBreach rule items before item := by
  induction items with
  | nil => exact .inl (List.forall_mem_nil _)
  | cons next items ih =>
    by_cases kept : rule next
    · have single : ∀ item ∈ [next], rule item := List.forall_mem_singleton.2 kept
      rcases ih with all | ⟨before, item, first⟩
      · exact .inl (List.forall_mem_cons.2 ⟨kept, all⟩)
      · exact .inr ⟨next :: before, item, first.after single⟩
    · exact .inr ⟨[], next, .head kept items⟩

theorem unique (first : FirstBreach rule items before item) (second : FirstBreach rule items front other) :
    before = front ∧ item = other := by
  induction items generalizing before front with
  | nil => cases first.mem
  | cons next rest ih =>
    rcases first.cases_cons with ⟨broken, rfl, rfl⟩ | ⟨kept, early, rfl, remains⟩
    · rcases second.cases_cons with ⟨-, rfl, rfl⟩ | ⟨keeps, -⟩
      · exact ⟨rfl, rfl⟩
      · exact absurd keeps broken
    · rcases second.cases_cons with ⟨breaks, -⟩ | ⟨-, late, rfl, remain⟩
      · exact absurd kept breaks
      · obtain ⟨rfl, same⟩ := ih remains remain
        exact ⟨rfl, same⟩

end FirstBreach

end Sluice
