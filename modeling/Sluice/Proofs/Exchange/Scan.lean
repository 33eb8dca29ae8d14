import Sluice.Proofs.Exchange.Target

/-! The check of a target against its rule, which looks at each byte by itself: a percent sign has two hexadecimal
digits after it, and no byte is a control or a space. The scan passes over whole escapes, but what it passes over is in
order, so it finds a byte that breaks the rule if there is one, and the first of them. -/

set_option autoImplicit false

namespace Sluice

namespace Target

def IsHexDigit (b : UInt8) : Prop :=
  0x30 ≤ b.toNat ∧ b.toNat ≤ 0x39 ∨ 0x41 ≤ b.toNat ∧ b.toNat ≤ 0x46 ∨ 0x61 ≤ b.toNat ∧ b.toNat ≤ 0x66

/-- A control of ASCII, or the space. -/
def IsForbidden (b : UInt8) : Prop := b.toNat < 0x20 ∨ b.toNat = 0x20 ∨ b.toNat = 0x7F

/-- Two hexadecimal digits stand after the byte at an offset. -/
def Escapes (bytes : Bytes) (offset : Nat) : Prop :=
  ∃ high low, bytes[offset + 1]? = some high ∧ bytes[offset + 2]? = some low ∧ IsHexDigit high ∧ IsHexDigit low

/-- What is wrong with the byte at an offset, whatever stands before it. -/
inductive Shows (bytes : Bytes) : Defect → Prop where
  | brokenEscape {offset : Nat} : bytes[offset]? = some 0x25 → ¬ Escapes bytes offset →
    Shows bytes (.brokenEscape offset)
  | illegalByte {byte : UInt8} {offset : Nat} : bytes[offset]? = some byte → IsForbidden byte →
    Shows bytes (.illegalByte byte offset)

namespace Defect

def offset : Defect → Nat
  | .brokenEscape offset => offset
  | .illegalByte _ offset => offset

/-- The same thing wrong some bytes later. -/
def later (distance : Nat) : Defect → Defect
  | .brokenEscape offset => .brokenEscape (offset + distance)
  | .illegalByte byte offset => .illegalByte byte (offset + distance)

@[simp] theorem offset_later (distance : Nat) (defect : Defect) :
    (defect.later distance).offset = defect.offset + distance := by
  cases defect <;> rfl

theorem later_zero (defect : Defect) : defect.later 0 = defect := by
  cases defect <;> rfl

theorem later_later (first second : Nat) (defect : Defect) :
    (defect.later first).later second = defect.later (first + second) := by
  cases defect <;> simp only [later, Nat.add_assoc]

end Defect

/-- What is wrong with the first byte that breaks the rule. -/
structure ShowsFirst (bytes : Bytes) (defect : Defect) : Prop where
  found : Shows bytes defect
  least : ∀ other, Shows bytes other → defect.offset ≤ other.offset

variable {b high low : UInt8} {rest bytes : Bytes} {offset : Nat} {defect : Defect}

theorem isHexByte_iff : isHexByte b = true ↔ IsHexDigit b := by
  have each : ∀ n : Fin 256, isHexByte (.ofFin n) = true ↔ IsHexDigit (.ofFin n) := by
    unfold IsHexDigit
    decide +kernel
  exact each b.toFin

theorem isIllegal_iff : isIllegal b = true ↔ IsForbidden b := by
  simp only [isIllegal, IsForbidden, Bool.or_eq_true, decide_eq_true_eq, beq_iff_eq, ← UInt8.toNat_inj]
  have delete : (0x7F : UInt8).toNat = 0x7F := rfl
  omega

theorem isPercent_iff : isPercent b = true ↔ b = 0x25 := beq_iff_eq

theorem Shows.cons (b : UInt8) (inside : Shows rest defect) : Shows (b :: rest) (defect.later 1) := by
  cases inside with
  | brokenEscape percent broken => exact .brokenEscape percent broken
  | illegalByte byte forbidden => exact .illegalByte byte forbidden

/-- What is wrong is wrong with the first byte or with one of the rest. -/
theorem Shows.cases_cons (found : Shows (b :: rest) defect) :
    defect.offset = 0 ∨ ∃ inner, Shows rest inner ∧ defect = inner.later 1 := by
  cases found with
  | @brokenEscape offset percent broken =>
    cases offset with
    | zero => exact .inl rfl
    | succ offset => exact .inr ⟨.brokenEscape offset, .brokenEscape percent broken, rfl⟩
  | @illegalByte byte offset here forbidden =>
    cases offset with
    | zero => exact .inl rfl
    | succ offset => exact .inr ⟨.illegalByte byte offset, .illegalByte here forbidden, rfl⟩

/-- The first byte is in order. -/
def Clean (bytes : Bytes) : Prop := ∀ defect, Shows bytes defect → defect.offset ≠ 0

theorem clean_plain (percent : b ≠ 0x25) (allowed : ¬ IsForbidden b) (rest : Bytes) : Clean (b :: rest) := by
  intro defect found start
  cases found with
  | @brokenEscape offset here _ =>
    obtain rfl : offset = 0 := start
    exact percent (Option.some.inj here)
  | @illegalByte byte offset here forbidden =>
    obtain rfl : offset = 0 := start
    obtain rfl := Option.some.inj here
    exact allowed forbidden

theorem clean_escape (first : IsHexDigit high) (second : IsHexDigit low) (rest : Bytes) :
    Clean (0x25 :: high :: low :: rest) := by
  intro defect found start
  cases found with
  | @brokenEscape offset _ broken =>
    obtain rfl : offset = 0 := start
    exact broken ⟨high, low, rfl, rfl, first, second⟩
  | @illegalByte byte offset here forbidden =>
    obtain rfl : offset = 0 := start
    obtain rfl := Option.some.inj here
    exact absurd forbidden (by unfold IsForbidden; decide)

theorem IsHexDigit.clean (digit : IsHexDigit b) (rest : Bytes) : Clean (b :: rest) := by
  unfold IsHexDigit at digit
  refine clean_plain ?_ ?_ rest
  · rintro rfl
    revert digit
    decide
  · unfold IsForbidden
    omega

/-- The result of a scan that begins at an offset is right. -/
def Verdict (offset : Nat) (bytes : Bytes) : Option Defect → Prop
  | none => ∀ defect, ¬ Shows bytes defect
  | some found => ∃ first, ShowsFirst bytes first ∧ found = first.later offset

/-- A byte that is in order may be passed over. -/
theorem Clean.verdict (clean : Clean (b :: rest)) {result : Option Defect}
    (verdict : Verdict (offset + 1) rest result) : Verdict offset (b :: rest) result := by
  cases result with
  | none =>
    intro defect found
    rcases found.cases_cons with start | ⟨inner, inside, -⟩
    · exact clean defect found start
    · exact verdict inner inside
  | some found =>
    obtain ⟨first, ⟨inside, least⟩, rfl⟩ := verdict
    refine ⟨first.later 1, ⟨inside.cons b, fun other also => ?_⟩, ?_⟩
    · rcases also.cases_cons with start | ⟨inner, within, rfl⟩
      · exact absurd start (clean other also)
      · have before := least inner within
        simpa using before
    · rw [Defect.later_later, Nat.add_comm]

theorem verdict_here (offset : Nat) (found : Shows bytes defect) (start : defect.offset = 0) :
    Verdict offset bytes (some (defect.later offset)) :=
  ⟨defect, ⟨found, fun other _ => start ▸ Nat.zero_le other.offset⟩, rfl⟩

theorem verdict_percent (percent : isPercent b = true) (broken : ¬ Escapes (b :: rest) 0) (offset : Nat) :
    Verdict offset (b :: rest) (some (.brokenEscape offset)) := by
  obtain rfl := isPercent_iff.1 percent
  have here := verdict_here offset (.brokenEscape rfl broken) rfl
  rwa [Defect.later, Nat.zero_add] at here

theorem verdict_illegal (illegal : isIllegal b = true) (offset : Nat) (rest : Bytes) :
    Verdict offset (b :: rest) (some (.illegalByte b offset)) := by
  have found : Shows (b :: rest) (.illegalByte b 0) := .illegalByte rfl (isIllegal_iff.1 illegal)
  have here := verdict_here offset found rfl
  rwa [Defect.later, Nat.zero_add] at here

theorem verdict_plain (percent : ¬ isPercent b = true) (allowed : ¬ isIllegal b = true) {result : Option Defect}
    (verdict : Verdict (offset + 1) rest result) : Verdict offset (b :: rest) result := by
  rw [isPercent_iff] at percent
  rw [isIllegal_iff] at allowed
  exact (clean_plain percent allowed rest).verdict verdict

/-- Wherever a scan begins, what it finds is right. -/
theorem scan_verdict (offset : Nat) (bytes : Bytes) : Verdict offset bytes (scan offset bytes) := by
  fun_induction scan offset bytes with
  | case1 offset =>
    intro defect found
    cases found with
    | brokenEscape here _ => cases here
    | illegalByte here _ => cases here
  | case2 offset b high low rest percent digits ih =>
    -- the two digits are passed over unread, and they are in order
    rw [Bool.and_eq_true, isHexByte_iff, isHexByte_iff] at digits
    obtain rfl := isPercent_iff.1 percent
    have after : Verdict (offset + 2) (low :: rest) (scan (offset + 3) rest) := (digits.2.clean rest).verdict ih
    have further : Verdict (offset + 1) (high :: low :: rest) _ := (digits.1.clean (low :: rest)).verdict after
    exact (clean_escape digits.1 digits.2 rest).verdict further
  | case3 offset b high low rest percent digits =>
    rw [Bool.and_eq_true, isHexByte_iff, isHexByte_iff] at digits
    refine verdict_percent percent ?_ offset
    rintro ⟨first, second, ⟨⟩, ⟨⟩, both⟩
    exact digits both
  | case4 offset b high low rest percent illegal => exact verdict_illegal illegal offset _
  | case5 offset b high low rest percent allowed ih => exact verdict_plain percent allowed ih
  | case6 offset b rest short percent =>
    refine verdict_percent percent ?_ offset
    rintro ⟨first, second, one, two, -⟩
    match rest with
    | [] => cases one
    | [_] => cases two
    | high :: low :: rest => exact short high low rest rfl
  | case7 offset b rest short percent illegal => exact verdict_illegal illegal offset rest
  | case8 offset b rest short percent allowed ih => exact verdict_plain percent allowed ih

/-- Nothing is wrong anywhere exactly if every percent sign has its digits and no byte is forbidden. -/
theorem forall_not_shows_iff : (∀ defect, ¬ Shows bytes defect) ↔
    (∀ offset, bytes[offset]? = some 0x25 → Escapes bytes offset) ∧ ∀ b ∈ bytes, ¬ IsForbidden b := by
  constructor
  · intro none
    refine ⟨fun offset percent => ?_, fun b member forbidden => ?_⟩
    · by_contra broken
      exact none _ (.brokenEscape percent broken)
    · obtain ⟨offset, here⟩ := List.mem_iff_getElem?.1 member
      exact none _ (.illegalByte here forbidden)
  · rintro ⟨escapes, allowed⟩ defect found
    cases found with
    | brokenEscape percent broken => exact broken (escapes _ percent)
    | illegalByte here forbidden => exact allowed _ (List.mem_of_getElem? here) forbidden

/-- One byte shows one thing at most: the percent sign is not forbidden. -/
theorem Shows.unique {other : Defect} (first : Shows bytes defect) (second : Shows bytes other)
    (same : defect.offset = other.offset) : defect = other := by
  have percent : ¬ IsForbidden 0x25 := by
    unfold IsForbidden
    decide
  cases first with
  | @brokenEscape offset here broken =>
    cases second with
    | brokenEscape there _ => exact congrArg Defect.brokenEscape same
    | @illegalByte byte _ there forbidden =>
      obtain rfl : offset = _ := same
      rw [here] at there
      exact absurd forbidden (Option.some.inj there ▸ percent)
  | @illegalByte byte offset here forbidden =>
    cases second with
    | brokenEscape there _ =>
      obtain rfl : offset = _ := same
      rw [here] at there
      exact absurd forbidden ((Option.some.inj there).symm ▸ percent)
    | @illegalByte twin _ there _ =>
      obtain rfl : offset = _ := same
      rw [here] at there
      exact congrArg (Defect.illegalByte · offset) (Option.some.inj there)

theorem ShowsFirst.unique {other : Defect} (first : ShowsFirst bytes defect) (second : ShowsFirst bytes other) :
    defect = other :=
  first.found.unique second.found
    (Nat.le_antisymm (first.least other second.found) (second.least defect first.found))

theorem defect?_cases (target : String) :
    (defect? target = none ∧ ∀ defect, ¬ Shows (Bytes.ofText target) defect) ∨
      ∃ defect, defect? target = some defect ∧ ShowsFirst (Bytes.ofText target) defect := by
  have verdict := scan_verdict 0 (Bytes.ofText target)
  rw [← defect?] at verdict
  cases found : defect? target with
  | none =>
    rw [found] at verdict
    exact .inl ⟨rfl, verdict⟩
  | some defect =>
    rw [found] at verdict
    obtain ⟨first, shows, rfl⟩ := verdict
    rw [Defect.later_zero]
    exact .inr ⟨first, rfl, shows⟩

/-- A target passes exactly if two hexadecimal digits follow each percent sign and no byte is a control or a space. Else
the first byte that breaks this is told with its offset, as a broken escape if it is a percent sign and as an illegal
character if it is not. A request is adapted exactly if its target passes. -/
theorem validates_exactly (target : String) :
    (validate target = .ok () ↔
      (∀ offset, (Bytes.ofText target)[offset]? = some 0x25 → Escapes (Bytes.ofText target) offset) ∧
        ∀ b ∈ Bytes.ofText target, ¬ IsForbidden b) ∧
    (∀ fault, validate target = .error fault ↔
      ∃ defect, ShowsFirst (Bytes.ofText target) defect ∧ fault = .malformedTarget target defect.reason) ∧
    ∀ context request, request.uri.target = target →
      ((∃ inbound, Inbound.ofRequest context request = .ok inbound) ↔ validate target = .ok ()) := by
  rw [← forall_not_shows_iff]
  refine ⟨?passes, ?fails, ?adapts⟩
  case passes =>
    rcases defect?_cases target with ⟨none, clean⟩ | ⟨defect, some, first⟩
    · simpa [validate, none] using clean
    · simpa [validate, some] using ⟨defect, first.found⟩
  case fails =>
    intro fault
    rcases defect?_cases target with ⟨none, clean⟩ | ⟨defect, some, first⟩
    · simp only [validate, none, reduceCtorEq, false_iff]
      rintro ⟨defect, first, -⟩
      exact clean defect first.found
    · simp only [validate, some, Except.error.injEq]
      constructor
      · rintro rfl
        exact ⟨defect, first, rfl⟩
      · rintro ⟨other, also, rfl⟩
        rw [first.unique also]
  case adapts =>
    rintro context request rfl
    unfold Inbound.ofRequest
    cases validate request.uri.target with
    | ok passed => simp
    | error fault => simp

/-- The end of a target cuts an escape short that stands after a whole one and a character of two bytes. A space is
told before a broken escape that comes after it. -/
theorem cut_escape_refused :
    validate "/é%25%4" = .error (.malformedTarget "/é%25%4" "invalid percent escape at offset 6") ∧
      (∃ defect, ShowsFirst (Bytes.ofText "/é%25%4") defect ∧ defect.reason = "invalid percent escape at offset 6") ∧
      (∃ defect, ShowsFirst (Bytes.ofText "/a b%") defect ∧ defect.reason = "illegal character ' ' at offset 2") ∧
      ∃ inbound, Inbound.ofRequest default Inbound.spelledRequest = .ok inbound := by
  have refused : validate "/é%25%4" = .error (.malformedTarget "/é%25%4" "invalid percent escape at offset 6") := by
    decide +kernel
  obtain ⟨-, fails, -⟩ := validates_exactly "/é%25%4"
  obtain ⟨defect, first, same⟩ := (fails _).1 refused
  have blank : validate "/a b%" = .error (.malformedTarget "/a b%" "illegal character ' ' at offset 2") := by
    decide +kernel
  obtain ⟨space, early, reason⟩ := ((validates_exactly "/a b%").2.1 _).1 blank
  obtain ⟨-, -, adapts⟩ := validates_exactly Inbound.spelledRequest.uri.target
  have passed : validate Inbound.spelledRequest.uri.target = .ok () := by decide +kernel
  exact ⟨refused, ⟨defect, first, (Fault.malformedTarget.inj same).2.symm⟩,
    ⟨space, early, (Fault.malformedTarget.inj reason).2.symm⟩, (adapts default _ rfl).2 passed⟩

end Target

end Sluice
