import Mathlib.Data.List.DropRight
import Sluice.Text.Blank

/-! Cutting a text up at a separator and trimming the pieces. Joining pieces that do not hold the separator is
undone by cutting, a text is cut the same way on both sides of a separator, and trimming twice is trimming once. -/

set_option autoImplicit false

namespace Sluice.Text

variable {separator : Char} {text before after : List Char}

theorem splitOn_eq (separator : Char) (text : List Char) : splitOn separator text = text.splitOn separator := by
  induction text with
  | nil => rfl
  | cons c rest ih =>
    rw [splitOn, ih, List.splitOn_eq_splitOnP, List.splitOn_eq_splitOnP, List.splitOnP_cons_eq_if_modifyHead]
    split
    · rfl
    · cases pieces : rest.splitOnP (· == separator) with
      | nil => exact absurd pieces (List.splitOnP_ne_nil _ rest)
      | cons piece others => rfl

theorem splitOn_append (separator : Char) (before after : List Char) :
    splitOn separator (before ++ separator :: after) = splitOn separator before ++ splitOn separator after := by
  simp only [splitOn_eq, List.splitOn_eq_splitOnP]
  exact List.splitOnP_append_cons before after (beq_self_eq_true separator)

theorem splitOn_of_not_mem (absent : separator ∉ text) : splitOn separator text = [text] := by
  rw [splitOn_eq, List.splitOn_eq_singleton absent]

theorem splitOn_intercalate (separator : Char) {pieces : List (List Char)} (absent : ∀ piece ∈ pieces, separator ∉ piece)
    (some : pieces ≠ []) : splitOn separator ([separator].intercalate pieces) = pieces := by
  rw [splitOn_eq, List.splitOn_intercalate separator absent some]

theorem mem_intercalate {α : Type} {separator : List α} {pieces : List (List α)} {x : α}
    (member : x ∈ separator.intercalate pieces) : x ∈ separator ∨ ∃ piece ∈ pieces, x ∈ piece := by
  induction pieces with
  | nil => cases member
  | cons piece rest ih =>
    cases rest with
    | nil => exact .inr ⟨piece, by simp, by simpa using member⟩
    | cons next others =>
      rw [List.intercalate_cons_cons, List.mem_append, List.mem_append] at member
      rcases member with (first | between) | later
      · exact .inr ⟨piece, by simp, first⟩
      · exact .inl between
      · obtain between | ⟨other, among, inside⟩ := ih later
        · exact .inl between
        · exact .inr ⟨other, by simp [among], inside⟩

/-- A separator of two characters is the first one, with the second at the front of each further piece. -/
theorem intercalate_pair (separator second : Char) (piece : List Char) (pieces : List (List Char)) :
    [separator, second].intercalate (piece :: pieces) =
      [separator].intercalate (piece :: pieces.map (second :: ·)) := by
  induction pieces generalizing piece with
  | nil => simp
  | cons next others ih => simp [List.intercalate_cons_cons, ih]

theorem splitOn_intercalate_pair {second : Char} (different : second ≠ separator) {piece : List Char}
    {pieces : List (List Char)} (absent : ∀ each ∈ piece :: pieces, separator ∉ each) :
    splitOn separator ([separator, second].intercalate (piece :: pieces)) = piece :: pieces.map (second :: ·) := by
  rw [intercalate_pair]
  refine splitOn_intercalate separator (fun each member => ?_) (List.cons_ne_nil _ _)
  rcases List.mem_cons.1 member with rfl | later
  · exact absent each (by simp)
  · obtain ⟨inner, among, rfl⟩ := List.mem_map.1 later
    simp [Ne.symm different, absent inner (by simp [among])]

theorem splitOnce?_eq_some_iff :
    splitOnce? separator text = some (before, after) ↔ text = before ++ separator :: after ∧ separator ∉ before := by
  induction text generalizing before with
  | nil => simp [splitOnce?]
  | cons c rest ih =>
    by_cases same : c = separator
    · subst same
      cases before with
      | nil => simp [splitOnce?]
      | cons first others =>
        simp only [splitOnce?, beq_self_eq_true, if_true, List.cons_append, List.mem_cons]
        grind
    · cases before with
      | nil => simp [splitOnce?, same]
      | cons first others =>
        have different : (c == separator) = false := by simpa using same
        simp only [splitOnce?, different, Bool.false_eq_true, if_false, Option.map_eq_some_iff, Prod.exists,
          List.cons_append, List.mem_cons]
        grind

theorem splitOnce?_eq_none_iff : splitOnce? separator text = none ↔ separator ∉ text := by
  induction text with
  | nil => simp [splitOnce?]
  | cons c rest ih =>
    by_cases same : c = separator
    · simp [splitOnce?, same]
    · simp [splitOnce?, same, ih, Ne.symm same]

/-! Trimming. -/

theorem trimLeft_append {c : Char} (solid : isBlank c = false) (before after : List Char) :
    trimLeft (before ++ c :: after) = trimLeft before ++ c :: after := by
  have stop : ¬ isBlank c = true := by simp [solid]
  rw [trimLeft, List.dropWhile_append, List.dropWhile_cons_of_neg stop]
  split
  · rename_i none
    rw [trimLeft, List.isEmpty_iff.1 none, List.nil_append]
  · rfl

theorem trimRight_eq_reverse (text : List Char) : trimRight text = (trimLeft text.reverse).reverse := rfl

theorem trimRight_append {c : Char} (solid : isBlank c = false) (before after : List Char) :
    trimRight (before ++ c :: after) = before ++ c :: trimRight after := by
  simp [trimRight_eq_reverse, trimLeft_append solid]

/-- What is not blank divides a text into two that are trimmed on their own. -/
theorem trim_append {c : Char} (solid : isBlank c = false) (before after : List Char) :
    trim (before ++ c :: after) = trimLeft before ++ c :: trimRight after := by
  rw [trim, trimLeft_append solid, trimRight_append solid]

theorem trim_trimLeft (text : List Char) : trim (trimLeft text) = trim text := by
  rw [trim, trimLeft, trimLeft, List.dropWhile_idempotent, trim, trimLeft]

theorem trim_cons {c : Char} (blank : isBlank c = true) (text : List Char) : trim (c :: text) = trim text := by
  rw [trim, trimLeft, List.dropWhile_cons_of_pos blank, trim, trimLeft]

theorem trimLeft_eq_self (solid : ∀ c ∈ text, isBlank c = false) : trimLeft text = text := by
  cases text with
  | nil => rfl
  | cons c rest => exact List.dropWhile_cons_of_neg (by simp [solid c])

theorem trimRight_eq_self (solid : ∀ c ∈ text, isBlank c = false) : trimRight text = text := by
  have back : ∀ c ∈ text.reverse, isBlank c = false := fun c member => solid c (List.mem_reverse.1 member)
  rw [trimRight_eq_reverse, trimLeft_eq_self back, List.reverse_reverse]

theorem trim_eq_self (solid : ∀ c ∈ text, isBlank c = false) : trim text = text := by
  rw [trim, trimLeft_eq_self solid, trimRight_eq_self solid]

theorem mem_of_mem_trimLeft {c : Char} (member : c ∈ trimLeft text) : c ∈ text :=
  (List.dropWhile_sublist isBlank).mem member

theorem mem_of_mem_trim {c : Char} (member : c ∈ trim text) : c ∈ text := by
  rw [trim, trimRight_eq_reverse, List.mem_reverse] at member
  exact mem_of_mem_trimLeft (List.mem_reverse.1 (mem_of_mem_trimLeft member))

end Sluice.Text
