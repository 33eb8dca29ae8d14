import Mathlib.Data.List.TakeWhile
import Sluice.Config.Expansion
import Sluice.Proofs.Text.Ascii
import Sluice.Proofs.Text.Breach

/-! The replacement of references in a text, told without the scan. A reference occurs where its spelling stands, and
the occurrences that are replaced are the leftmost ones that do not overlap. There is one way to cut a text at them.
What lies between is copied, and what is put in is not searched again. -/

set_option autoImplicit false

namespace Sluice

namespace Reference

/-- A letter of ASCII or an underscore. -/
def Opens (c : Char) : Prop := 65 ≤ c.toNat ∧ c.toNat ≤ 90 ∨ 97 ≤ c.toNat ∧ c.toNat ≤ 122 ∨ c = '_'

/-- A letter or an underscore, and letters, underscores and digits after it. -/
def IsIdentifier (name : List Char) : Prop :=
  ∃ first others, name = first :: others ∧ Opens first ∧ ∀ c ∈ others, Opens c ∨ 48 ≤ c.toNat ∧ c.toNat ≤ 57

theorem isNameStart_iff {c : Char} : isNameStart c = true ↔ Opens c := by
  simp only [isNameStart, Ascii.isLetter, Bool.or_eq_true, Ascii.isUpper_iff, Ascii.isLower_iff, beq_iff_eq, or_assoc,
    Opens]

theorem isNameChar_iff {c : Char} : isNameChar c = true ↔ Opens c ∨ 48 ≤ c.toNat ∧ c.toNat ≤ 57 := by
  rw [isNameChar, Bool.or_eq_true, isNameStart_iff, Ascii.isDigit_iff]

structure Proper (reference : Reference) : Prop where
  name : IsIdentifier reference.name
  fallback : ∀ text ∈ reference.fallback, '}' ∉ text

def ending (fallback : Option (List Char)) : List Char :=
  match fallback with
  | none => ['}']
  | some text => ':' :: '-' :: (text ++ ['}'])

def text (reference : Reference) : List Char := '$' :: '\x7b' :: (reference.name ++ ending reference.fallback)

/-- A reference occurs at the beginning of a text. -/
def Begins (text : List Char) : Prop := ∃ reference : Reference, reference.Proper ∧ reference.text <+: text

variable {text rest : List Char} {reference : Reference}

theorem span_eq {rule : Char → Bool} {c : Char} {front : List Char} (kept : ∀ d ∈ front, rule d = true)
    (stops : rule c = false) (back : List Char) :
    (front ++ c :: back).takeWhile rule = front ∧ (front ++ c :: back).dropWhile rule = c :: back := by
  have broken : ¬ rule c = true := by simp [stops]
  constructor
  · rw [List.takeWhile_append_of_pos kept, List.takeWhile_cons_of_neg broken, List.append_nil]
  · rw [List.dropWhile_append_of_pos kept, List.dropWhile_cons_of_neg broken]

theorem close?_eq_some_iff {name : List Char} : close? name text = some (reference, rest) ↔
    reference.name = name ∧ (∀ fallback ∈ reference.fallback, '}' ∉ fallback) ∧
      text = ending reference.fallback ++ rest := by
  constructor
  · intro closes
    unfold close? at closes
    split at closes
    · cases closes
      exact ⟨rfl, nofun, rfl⟩
    · next after =>
      split at closes
      · next found =>
        cases closes
        refine ⟨rfl, ?_, ?_⟩
        · rintro fallback ⟨⟩ brace
          exact absurd (List.mem_takeWhile_imp brace) (by decide)
        · have whole := List.takeWhile_append_dropWhile (p := (· != '}')) (l := after)
          rw [found] at whole
          simp [ending, whole]
      · cases closes
    · cases closes
  · rintro ⟨rfl, bare, rfl⟩
    obtain ⟨name, fallback⟩ := reference
    cases fallback with
    | none => rfl
    | some fallback =>
      have absent : ∀ c ∈ fallback, (c != '}') = true := by
        intro c member
        exact bne_iff_ne.2 (ne_of_mem_of_not_mem member (bare fallback rfl))
      obtain ⟨taken, dropped⟩ := span_eq absent (by decide : ('}' != '}') = false) rest
      simp [ending, close?, taken, dropped]

/-- What comes after a name is no part of it. -/
theorem ending_append (fallback : Option (List Char)) (rest : List Char) :
    ∃ c back, ending fallback ++ rest = c :: back ∧ isNameChar c = false := by
  cases fallback with
  | none => exact ⟨'}', rest, rfl, by decide⟩
  | some text => exact ⟨':', _, rfl, by decide⟩

theorem read?_eq_some_iff : read? text = some (reference, rest) ↔ reference.Proper ∧ text = reference.text ++ rest := by
  constructor
  · intro found
    unfold read? at found
    split at found
    · next c after =>
      split at found
      · next starts =>
        obtain ⟨name, bare, closes⟩ := close?_eq_some_iff.1 found
        have whole := List.takeWhile_append_dropWhile (p := isNameChar) (l := after)
        rw [closes] at whole
        have kept : ∀ d ∈ after.takeWhile isNameChar, Opens d ∨ 48 ≤ d.toNat ∧ d.toNat ≤ 57 :=
          fun d member => isNameChar_iff.1 (List.mem_takeWhile_imp member)
        refine ⟨⟨⟨c, _, name, isNameStart_iff.1 starts, kept⟩, bare⟩, ?_⟩
        simp [Reference.text, name, whole]
      · cases found
    · cases found
  · rintro ⟨⟨⟨first, others, name, starts, kept⟩, bare⟩, rfl⟩
    obtain ⟨c, back, after, stops⟩ := ending_append reference.fallback rest
    have spelled : reference.text ++ rest = '$' :: '\x7b' :: first :: (others ++ c :: back) := by
      simp [Reference.text, name, after]
    obtain ⟨taken, dropped⟩ := span_eq (fun d member => isNameChar_iff.2 (kept d member)) stops back
    rw [spelled, read?, if_pos (isNameStart_iff.2 starts), taken, dropped]
    exact close?_eq_some_iff.2 ⟨name, bare, after.symm⟩

theorem begins_iff : Begins text ↔ (read? text).isSome = true := by
  rw [Option.isSome_iff_exists]
  constructor
  · rintro ⟨reference, proper, rest, rfl⟩
    exact ⟨_, read?_eq_some_iff.2 ⟨proper, rfl⟩⟩
  · rintro ⟨⟨reference, rest⟩, found⟩
    obtain ⟨proper, rfl⟩ := read?_eq_some_iff.1 found
    exact ⟨reference, proper, rest, rfl⟩

instance (text : List Char) : Decidable (Begins text) := decidable_of_iff _ begins_iff.symm

def key (reference : Reference) : String := String.ofList reference.name

/-- What stands for a reference: the value of the variable if it is set, else the fallback. -/
def standing? (environment : Environment) (reference : Reference) : Option (List Char) :=
  match environment.find? reference.key with
  | some value => some value.toList
  | none => reference.fallback

theorem value_eq (environment : Environment) (reference : Reference) : reference.value environment =
    match reference.standing? environment with
    | some text => .ok text
    | none => .error (.unsetVariable reference.key) := by
  simp only [value, standing?, key]
  cases environment.find? (String.ofList reference.name) with
  | some value => rfl
  | none =>
    cases reference.fallback with
    | some fallback => rfl
    | none => rfl

end Reference

/-- Text to copy, and the reference after it. -/
structure Passage where
  copied : List Char
  reference : Reference
  deriving DecidableEq, Repr

namespace Passage

open Reference

/-- No reference occurs at the first positions of a text. -/
def Clear (text : List Char) (stop : Nat) : Prop := ∀ position < stop, ¬ Begins (text.drop position)

instance (text : List Char) (stop : Nat) : Decidable (Clear text stop) :=
  inferInstanceAs (Decidable (∀ position < stop, ¬ Begins (text.drop position)))

/-- A text is cut at the first reference that occurs in it, and what is after that one is cut in the same way. -/
inductive Cut : List Char → List Passage → List Char → Prop
  | last {tail : List Char} : Clear tail tail.length → Cut tail [] tail
  | next {text copied after tail : List Char} {reference : Reference} {passages : List Passage} :
      text = copied ++ (reference.text ++ after) → reference.Proper → Clear text copied.length →
      Cut after passages tail → Cut text (⟨copied, reference⟩ :: passages) tail

variable {text tail copied rest back : List Char} {c : Char} {passages : List Passage} {reference : Reference}

theorem clear_cons {stop : Nat} : Clear (c :: text) (stop + 1) ↔ ¬ Begins (c :: text) ∧ Clear text stop :=
  Nat.forall_lt_succ_left

theorem Cut.push (plain : ¬ Begins (c :: text)) (cut : Cut text passages tail) :
    ∃ others front, Cut (c :: text) others front := by
  cases cut with
  | last clear => exact ⟨_, _, .last (clear_cons.2 ⟨plain, clear⟩)⟩
  | @next _ copied after _ reference passages spelled proper clear cut =>
    have longer : c :: text = (c :: copied) ++ (reference.text ++ after) := by rw [spelled, List.cons_append]
    exact ⟨_, _, .next longer proper (clear_cons.2 ⟨plain, clear⟩) cut⟩

theorem Cut.of_read (copied : List Char) (found : read? back = some (reference, rest))
    (clear : Clear (copied ++ back) copied.length) (cut : Cut rest passages tail) :
    Cut (copied ++ back) (⟨copied, reference⟩ :: passages) tail := by
  obtain ⟨proper, rfl⟩ := read?_eq_some_iff.1 found
  exact .next rfl proper clear cut

theorem exists_cut (text : List Char) : ∃ passages tail, Cut text passages tail := by
  induction text using Piece.split.induct with
  | case1 text reference rest found ih =>
    obtain ⟨passages, tail, cut⟩ := ih
    have clear : Clear ([] ++ text) 0 := fun position early => absurd early (Nat.not_lt_zero position)
    exact ⟨⟨[], reference⟩ :: passages, tail, .of_read [] found clear cut⟩
  | case2 found => exact ⟨[], [], .last nofun⟩
  | case3 c rest found ih =>
    obtain ⟨passages, tail, cut⟩ := ih
    have plain : ¬ Begins (c :: rest) := by simp [begins_iff, found]
    exact cut.push plain

/-- A text that begins with one reference does not begin with another. -/
theorem unique_reference {other : Reference} (proper : reference.Proper) (valid : other.Proper)
    (same : reference.text ++ rest = other.text ++ back) : reference = other ∧ rest = back := by
  have first : read? (reference.text ++ rest) = some (reference, rest) := read?_eq_some_iff.2 ⟨proper, rfl⟩
  have second : read? (reference.text ++ rest) = some (other, back) := read?_eq_some_iff.2 ⟨valid, same⟩
  rw [first] at second
  cases second
  exact ⟨rfl, rfl⟩

theorem not_clear (spelled : text = copied ++ (reference.text ++ rest)) (proper : reference.Proper) {stop : Nat}
    (early : copied.length < stop) : ¬ Clear text stop := by
  intro clear
  refine clear _ early ⟨reference, proper, ?_⟩
  rw [spelled, List.drop_left]
  exact List.prefix_append _ _

theorem not_clear_length (spelled : text = copied ++ (reference.text ++ rest)) (proper : reference.Proper) :
    ¬ Clear text text.length := by
  refine not_clear spelled proper ?_
  rw [spelled]
  simp [Reference.text]

/-- There is one way to cut a text. -/
theorem Cut.unique (cut : Cut text passages tail) {others : List Passage} {remainder : List Char}
    (second : Cut text others remainder) : others = passages ∧ remainder = tail := by
  induction cut generalizing others remainder with
  | last clear =>
    cases second with
    | last => exact ⟨rfl, rfl⟩
    | next spelled proper => exact absurd clear (not_clear_length spelled proper)
  | next spelled proper clear _ ih =>
    cases second with
    | last whole => exact absurd whole (not_clear_length spelled proper)
    | next split valid free rest =>
      -- neither of the two references occurs before the other
      have length := Nat.le_antisymm (Nat.le_of_not_lt fun early => not_clear split valid early clear)
        (Nat.le_of_not_lt fun early => not_clear spelled proper early free)
      obtain ⟨rfl, same⟩ := List.append_inj (spelled.symm.trans split) length
      obtain ⟨rfl, rfl⟩ := unique_reference proper valid same
      obtain ⟨rfl, rfl⟩ := ih rest
      exact ⟨rfl, rfl⟩

/-! The pieces of the scan are those of the cut. -/

theorem split_reference (found : read? text = some (reference, rest)) :
    Piece.split text = .reference reference :: Piece.split rest := by
  rw [Piece.split]
  split
  · next read =>
    rw [found] at read
    cases read
    rfl
  · next missing =>
    rw [found] at missing
    cases missing

theorem split_cons (plain : ¬ Begins (c :: text)) : Piece.split (c :: text) = .literal c :: Piece.split text := by
  rw [Piece.split]
  split
  · next read => exact absurd (begins_iff.2 (Option.isSome_of_eq_some read)) plain
  · rfl

theorem split_copied (clear : Clear (copied ++ back) copied.length) :
    Piece.split (copied ++ back) = copied.map .literal ++ Piece.split back := by
  induction copied with
  | nil => rfl
  | cons c copied ih =>
    obtain ⟨plain, later⟩ := clear_cons.1 clear
    exact (split_cons plain).trans (congrArg (Piece.literal c :: ·) (ih later))

def pieces (passage : Passage) : List Piece := passage.copied.map .literal ++ [.reference passage.reference]

theorem Cut.split_eq (cut : Cut text passages tail) :
    Piece.split text = passages.flatMap pieces ++ tail.map .literal := by
  induction cut with
  | @last tail clear =>
    have whole : Clear (tail ++ []) tail.length := by rwa [List.append_nil]
    have empty : Piece.split [] = [] := by
      rw [Piece.split]
      rfl
    have split := split_copied whole
    rwa [empty, List.append_nil, List.append_nil] at split
  | next spelled proper clear _ ih =>
    rw [spelled] at clear
    rw [spelled, split_copied clear, split_reference (read?_eq_some_iff.2 ⟨proper, rfl⟩), ih]
    simp [pieces]

section Values

variable {α β ε : Type} {value other : α → Except ε β} {items front : List α}

theorem mapM_congr (same : ∀ item ∈ items, value item = other item) : items.mapM value = items.mapM other := by
  induction items with
  | nil => rfl
  | cons item items ih =>
    obtain ⟨first, rest⟩ := List.forall_mem_cons.1 same
    rw [List.mapM_cons, List.mapM_cons, first, ih rest]

theorem mapM_eq_ok {result : α → β} (each : ∀ item ∈ items, value item = .ok (result item)) :
    items.mapM value = .ok (items.map result) :=
  (mapM_congr each).trans List.mapM_pure

theorem mapM_eq_error {result : α → β} (each : ∀ item ∈ front, value item = .ok (result item)) {item : α} {error : ε}
    (fails : value item = .error error) (rest : List α) : (front ++ item :: rest).mapM value = .error error := by
  rw [List.mapM_append, mapM_eq_ok each, List.mapM_cons, fails]
  rfl

end Values

/-- What stands for a piece, if anything does. -/
def putIn (environment : Environment) : Piece → List Char
  | .literal c => [c]
  | .reference reference => (reference.standing? environment).getD []

def Stands (environment : Environment) (passage : Passage) : Prop :=
  (passage.reference.standing? environment).isSome = true

instance (environment : Environment) : DecidablePred (Stands environment) :=
  fun passage => inferInstanceAs (Decidable ((passage.reference.standing? environment).isSome = true))

variable {environment other : Environment}

/-- Nothing but the reference at its end can be missing in a passage. -/
theorem value_eq_ok (stand : ∀ passage ∈ passages, Stands environment passage) (literals : List Char) :
    ∀ piece ∈ passages.flatMap pieces ++ literals.map .literal,
      piece.value environment = .ok (putIn environment piece) := by
  intro piece member
  cases piece with
  | literal c => rfl
  | reference reference =>
    obtain ⟨passage, among, same⟩ : ∃ passage ∈ passages, reference = passage.reference := by
      simpa [pieces] using member
    obtain ⟨text, stands⟩ := Option.isSome_iff_exists.1 (stand passage among)
    simp [Piece.value, putIn, value_eq, same, stands]

/-- A text with something put in for each reference. -/
def joined (replace : Reference → List Char) (passages : List Passage) (tail : List Char) : List Char :=
  passages.flatMap (fun passage => passage.copied ++ replace passage.reference) ++ tail

theorem Cut.eq_joined (cut : Cut text passages tail) : text = joined Reference.text passages tail := by
  induction cut with
  | last => rfl
  | next spelled _ _ _ ih =>
    rw [spelled, ih]
    simp [joined]

/-- A text with what stands for each reference. -/
def filled (environment : Environment) (passages : List Passage) (tail : List Char) : List Char :=
  joined (fun reference => (reference.standing? environment).getD []) passages tail

theorem flatMap_putIn (environment : Environment) (passages : List Passage) (tail : List Char) :
    (passages.flatMap pieces ++ tail.map Piece.literal).flatMap (putIn environment) =
      filled environment passages tail := by
  have copied (text : List Char) : (text.map Piece.literal).flatMap (putIn environment) = text := by
    rw [List.flatMap_map]
    exact List.flatMap_singleton' text
  rw [List.flatMap_append, List.flatMap_assoc, copied, filled, joined]
  simp only [pieces, List.flatMap_append, copied, List.flatMap_singleton, putIn]

theorem Cut.expand_ok {content : String} (cut : Cut content.toList passages tail)
    (stand : ∀ passage ∈ passages, Stands environment passage) :
    environment.expand content = .ok (String.ofList (filled environment passages tail)) := by
  rw [Environment.expand, cut.split_eq, mapM_eq_ok (value_eq_ok stand tail), ← flatMap_putIn, List.flatMap_def]
  rfl

theorem Cut.expand_error {content : String} (cut : Cut content.toList passages tail) {before : List Passage}
    {passage : Passage} (breach : FirstBreach (Stands environment) passages before passage) :
    environment.expand content = .error (.unsetVariable passage.reference.key) := by
  obtain ⟨⟨after, rfl⟩, stand, missing⟩ := breach
  have nothing : passage.reference.standing? environment = none := Option.not_isSome_iff_eq_none.1 missing
  have fails : (Piece.reference passage.reference).value environment =
      .error (.unsetVariable passage.reference.key) := by
    rw [Piece.value, value_eq, nothing]
  have split : Piece.split content.toList = (before.flatMap pieces ++ passage.copied.map .literal) ++
      .reference passage.reference :: (after.flatMap pieces ++ tail.map .literal) := by
    rw [cut.split_eq]
    simp [pieces]
  rw [Environment.expand, split, mapM_eq_error (value_eq_ok stand passage.copied) fails]
  rfl

theorem Cut.expand_ok_iff {content result : String} (cut : Cut content.toList passages tail) :
    environment.expand content = .ok result ↔
      (∀ passage ∈ passages, Stands environment passage) ∧ result.toList = filled environment passages tail := by
  rcases FirstBreach.forall_or_exists (Stands environment) passages with stand | ⟨before, passage, breach⟩
  · rw [cut.expand_ok stand, Except.ok.injEq, and_iff_right stand]
    constructor
    · rintro rfl
      exact String.toList_ofList
    · intro same
      rw [← same, String.ofList_toList]
  · rw [cut.expand_error breach]
    exact iff_of_false nofun fun filled => breach.broken (filled.1 _ breach.mem)

theorem Cut.expand_error_iff {content : String} {problem : LoadProblem} (cut : Cut content.toList passages tail) :
    environment.expand content = .error problem ↔ ∃ before passage,
      FirstBreach (Stands environment) passages before passage ∧ problem = .unsetVariable passage.reference.key := by
  constructor
  · intro fails
    rcases FirstBreach.forall_or_exists (Stands environment) passages with stand | ⟨before, passage, breach⟩
    · rw [cut.expand_ok stand] at fails
      cases fails
    · rw [cut.expand_error breach] at fails
      exact ⟨before, passage, breach, (Except.error.inj fails).symm⟩
  · rintro ⟨before, passage, breach, rfl⟩
    exact cut.expand_error breach

theorem Cut.expand_congr {content : String} (cut : Cut content.toList passages tail)
    (agree : ∀ passage ∈ passages, other.find? passage.reference.key = environment.find? passage.reference.key) :
    other.expand content = environment.expand content := by
  have same : ∀ piece ∈ Piece.split content.toList, piece.value other = piece.value environment := by
    intro piece member
    cases piece with
    | literal c => rfl
    | reference reference =>
      obtain ⟨passage, among, rfl⟩ : ∃ passage ∈ passages, passage.reference = reference := by
        simpa [cut.split_eq, pieces, eq_comm] using member
      rw [Piece.value, Piece.value, value_eq, value_eq, standing?, standing?, agree passage among]
  rw [Environment.expand, Environment.expand, mapM_congr same]

end Passage

namespace Environment

open Passage

/-- A text is cut in one way at the leftmost references that do not overlap. Each is replaced by the value of its
variable if that is set, else by its fallback, and all between them is copied. The first reference with neither is the
error. A text without references stays as it is, and no variable matters but those of the references. -/
theorem expands_leftmost (environment : Environment) (content : String) : ∃ passages tail,
    Cut content.toList passages tail ∧
    (∀ others remainder, Cut content.toList others remainder → others = passages ∧ remainder = tail) ∧
    content.toList = joined Reference.text passages tail ∧
    (∀ result, environment.expand content = .ok result ↔
      (∀ passage ∈ passages, Stands environment passage) ∧ result.toList = filled environment passages tail) ∧
    (∀ problem, environment.expand content = .error problem ↔ ∃ before passage,
      FirstBreach (Stands environment) passages before passage ∧ problem = .unsetVariable passage.reference.key) ∧
    (Clear content.toList content.toList.length → environment.expand content = .ok content) ∧
    ∀ other : Environment,
      (∀ passage ∈ passages, other.find? passage.reference.key = environment.find? passage.reference.key) →
      other.expand content = environment.expand content := by
  obtain ⟨passages, tail, cut⟩ := exists_cut content.toList
  refine ⟨passages, tail, cut, fun _ _ => cut.unique, cut.eq_joined, fun _ => cut.expand_ok_iff,
    fun _ => cut.expand_error_iff, fun clear => ?_, fun _ => cut.expand_congr⟩
  have unchanged : environment.expand content = .ok (String.ofList content.toList) :=
    Cut.expand_ok (.last clear) nofun
  rwa [String.ofList_toList] at unchanged

def nested : String := "$$\x7bA:-x\x7d$\x7bN:-$\x7bA\x7d\x7d$\x7bU"

theorem cut_nested : Cut nested.toList
    [⟨['$'], ⟨['A'], some ['x']⟩⟩, ⟨[], ⟨['N'], some ['$', '\x7b', 'A']⟩⟩] "\x7d$\x7bU".toList := by
  have last : Cut "\x7d$\x7bU".toList [] _ := .last (by decide)
  have second : Reference.read? "$\x7bN:-$\x7bA\x7d\x7d$\x7bU".toList =
    some (⟨['N'], some ['$', '\x7b', 'A']⟩, "\x7d$\x7bU".toList) := by decide
  have first : Reference.read? "$\x7bA:-x\x7d$\x7bN:-$\x7bA\x7d\x7d$\x7bU".toList =
    some (⟨['A'], some ['x']⟩, "$\x7bN:-$\x7bA\x7d\x7d$\x7bU".toList) := by decide
  exact .of_read ['$'] first (by decide) (.of_read [] second (by decide) last)

/-- Neither a value nor a fallback is searched for references, and an unterminated one is copied. -/
theorem nested_reference_expanded :
    expand [("A", "$\x7bB\x7d")] nested = .ok "$$\x7bB\x7d$\x7bA\x7d$\x7bU" ∧
    expand [("A", "$\x7bB\x7d"), ("B", "z"), ("U", "u")] nested = expand [("A", "$\x7bB\x7d")] nested := by
  obtain ⟨_, _, -, unique, -, succeeds, -, -, agrees⟩ := expands_leftmost [("A", "$\x7bB\x7d")] nested
  obtain ⟨rfl, rfl⟩ := unique _ _ cut_nested
  exact ⟨(succeeds _).2 ⟨by decide, by decide⟩, agrees _ (by decide)⟩

end Environment

end Sluice
