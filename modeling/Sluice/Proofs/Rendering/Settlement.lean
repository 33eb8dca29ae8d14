import Mathlib.Data.List.Induction
import Sluice.Proofs.Rendering.Subscription

/-! The completion of a subscription. A source can send any signals, also such as do not belong after an end. The first
end settles the completion, with the items before it, and nothing that comes later makes a difference. Without an end
the completion is canceled when the subscriber goes away. -/

set_option autoImplicit false

namespace Sluice

namespace Signal

/-- The value that items make up. -/
inductive Collects : List Value → Value → Prop where
  | nothing : Collects [] .unit
  | single (item : Value) : Collects [item] item
  | several (first second : Value) (others : List Value) :
      Collects (first :: second :: others) (.list (first :: second :: others))

theorem collects_iff {items : List Value} {value : Value} :
    Collects items value ↔ value = Subscriber.valueOf items := by
  constructor
  · rintro (_ | _ | _) <;> rfl
  · rintro rfl
    match items with
    | [] => exact .nothing
    | [item] => exact .single item
    | first :: second :: others => exact .several first second others

/-- An end and the result that it brings after the items. -/
inductive Ends (items : List Value) : Signal → Except Fault Value → Prop where
  | failed (cause : Fault) : Ends items (.failed cause) (.error cause)
  | completed {value : Value} : Collects items value → Ends items .completed (.ok value)

/-- What signals make of a completion by the time the subscriber is gone. -/
inductive Settles : List Signal → Completion → Prop where
  | ended {items : List Value} {signal : Signal} {result : Except Fault Value} (later : List Signal) :
      Ends items signal result → Settles (items.map .next ++ signal :: later) (.resolved result)
  | unended (items : List Value) : Settles (items.map .next) .canceled

theorem next_or_ends (items : List Value) (signal : Signal) :
    (∃ item, signal = .next item) ∨ ∃ result, Ends items signal result := by
  cases signal with
  | next item => exact .inl ⟨item, rfl⟩
  | failed cause => exact .inr ⟨_, .failed cause⟩
  | completed => exact .inr ⟨_, .completed (collects_iff.2 rfl)⟩

/-- Signals have a first end, or none. -/
theorem items_or_ends (signals : List Signal) : (∃ items : List Value, signals = items.map .next) ∨
    ∃ items signal result later, Ends items signal result ∧ signals = items.map .next ++ signal :: later := by
  -- from the end, since what an end brings depends on all items before it
  induction signals using List.reverseRecOn with
  | nil => exact .inl ⟨[], rfl⟩
  | append_singleton before signal ih =>
    rcases ih with ⟨items, rfl⟩ | ⟨items, ending, result, later, ends, rfl⟩
    · rcases next_or_ends items signal with ⟨item, rfl⟩ | ⟨result, ends⟩
      · exact .inl ⟨items ++ [item], by simp⟩
      · exact .inr ⟨items, signal, result, [], ends, rfl⟩
    · exact .inr ⟨items, ending, result, later ++ [signal], ends, by simp⟩

end Signal

namespace Subscriber

open Signal

variable {items : List Value} {signal : Signal} {signals later : List Signal} {result : Except Fault Value}

/-- The subscriber after all signals. -/
def after (signals : List Signal) : Subscriber := signals.foldl receive fresh

theorem after_append (before later : List Signal) : after (before ++ later) = later.foldl receive (after before) :=
  List.foldl_append

theorem after_items (items : List Value) : after (items.map .next) = ⟨items.reverse, .pending⟩ := by
  rw [after, fresh, foldl_receive_next, List.append_nil]

/-- What is settled stays so under all further signals. -/
theorem completion_after_append (settled : (after signals).completion ≠ .pending) (later : List Signal) :
    (after (signals ++ later)).completion = (after signals).completion := by
  rw [after_append, completion_foldl_receive settled]

theorem completion_release (settled : (after signals).completion ≠ .pending) :
    (after signals).release.completion = (after signals).completion := by
  rw [release_settled settled]

theorem receive_ends (ends : Ends items signal result) :
    (receive ⟨items.reverse, .pending⟩ signal).completion = .resolved result := by
  cases ends with
  | failed cause => rfl
  | completed collects =>
    rw [collects_iff.1 collects, receive, List.reverse_reverse]
    rfl

theorem completion_after_ends (ends : Ends items signal result) (later : List Signal) :
    (after (items.map .next ++ signal :: later)).completion = .resolved result := by
  have resolved : (after (items.map .next ++ [signal])).completion = .resolved result := by
    rw [after_append, after_items]
    exact receive_ends ends
  have settled : (after (items.map .next ++ [signal])).completion ≠ .pending := by simp [resolved]
  rw [List.append_cons, completion_after_append settled, resolved]

/-- As long as there are items alone nothing is settled. -/
theorem completion_after_eq_pending_iff :
    (after signals).completion = .pending ↔ ∃ items : List Value, signals = items.map .next := by
  constructor
  · intro pending
    rcases items_or_ends signals with items | ⟨items, signal, result, later, ends, rfl⟩
    · exact items
    · cases (completion_after_ends ends later).symm.trans pending
  · rintro ⟨items, rfl⟩
    rw [after_items]

theorem settles_iff {completion : Completion} :
    Settles signals completion ↔ (after signals).release.completion = completion := by
  constructor
  · intro settles
    cases settles with
    | ended later ends =>
      have resolved := completion_after_ends ends later
      rw [completion_release (by simp [resolved]), resolved]
    | unended items => rw [after_items, release]
  · rintro rfl
    rcases items_or_ends signals with ⟨items, rfl⟩ | ⟨items, signal, result, later, ends, rfl⟩
    · rw [after_items, release]
      exact .unended items
    · have resolved := completion_after_ends ends later
      rw [completion_release (by simp [resolved]), resolved]
      exact .ended later ends

/-- The completion changes with the first end, and with no other signal. -/
theorem completion_changes_iff (signals : List Signal) (signal : Signal) :
    (after (signals ++ [signal])).completion ≠ (after signals).completion ↔
      ∃ (items : List Value) (result : Except Fault Value), signals = items.map .next ∧ Ends items signal result := by
  constructor
  · intro changed
    have pending : (after signals).completion = .pending := by
      by_contra settled
      exact changed (completion_after_append settled [signal])
    obtain ⟨items, rfl⟩ := completion_after_eq_pending_iff.1 pending
    rcases next_or_ends items signal with ⟨item, rfl⟩ | ⟨result, ends⟩
    · have more : (after (items.map .next ++ [.next item])).completion = .pending :=
        completion_after_eq_pending_iff.2 ⟨items ++ [item], by simp⟩
      exact absurd (more.trans pending.symm) changed
    · exact ⟨items, result, rfl, ends⟩
  · rintro ⟨items, result, rfl, ends⟩
    rw [completion_after_ends ends [], after_items]
    nofun

/-- Whatever signals there are, by the time the subscriber is gone the first end has settled the completion, or it is
canceled. The first end alone changes it; from then on neither signals nor the release of the subscriber do. -/
theorem settles_once (signals : List Signal) :
    (∀ completion, Settles signals completion ↔ (after signals).release.completion = completion) ∧
    (∀ signal, (after (signals ++ [signal])).completion ≠ (after signals).completion ↔
      ∃ (items : List Value) (result : Except Fault Value), signals = items.map .next ∧ Ends items signal result) ∧
    ((after signals).completion = .pending ↔ ∃ items : List Value, signals = items.map .next) ∧
    ∀ later, (after signals).completion ≠ .pending →
      (after (signals ++ later)).completion = (after signals).completion ∧
      (after (signals ++ later)).release.completion = (after signals).completion := by
  refine ⟨fun _ => settles_iff, completion_changes_iff signals, completion_after_eq_pending_iff, ?_⟩
  intro later settled
  have same := completion_after_append settled later
  exact ⟨same, by rw [completion_release (by rwa [same]), same]⟩

/-- A completion and an item behind a failure make no difference. -/
theorem failure_settles_once :
    (after [.next (.natural 1), .failed (.internal "upstream")]).completion =
        .resolved (.error (.internal "upstream")) ∧
      (after ([.next (.natural 1), .failed (.internal "upstream")] ++ [.completed, .next .unit])).release.completion =
        .resolved (.error (.internal "upstream")) := by
  have failed : (after [.next (.natural 1), .failed (.internal "upstream")]).completion =
      .resolved (.error (.internal "upstream")) := rfl
  obtain ⟨-, -, -, stays⟩ := settles_once [.next (.natural 1), .failed (.internal "upstream")]
  exact ⟨failed, (stays _ (by simp [failed])).2.trans failed⟩

end Subscriber

end Sluice
