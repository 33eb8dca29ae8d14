import Mathlib.Data.List.Basic
import Sluice.Text.Utf8

/-! The reading of UTF-8. Encoded text is the standard encoding, and it is read back as it was. Whatever else a byte
string holds, reading never makes up an ASCII character: one that is read stood there as a byte. -/

set_option autoImplicit false

namespace Sluice.Utf8

theorem toNat_byte {n : Nat} (small : n < 0x100) : (byte n).toNat = n := by
  simpa [byte] using small

/-- A character is no surrogate. -/
theorem toNat_scalar (c : Char) : c.toNat < 0xD800 ∨ 0xDFFF < c.toNat ∧ c.toNat < 0x110000 := c.valid

/-- The standard encoding masks the bits of the first byte, which a character leaves clear. -/
theorem encodeChar_eq (c : Char) : encodeChar c = String.utf8EncodeChar c := by
  have scalar := toNat_scalar c
  have value : c.val.toNat = c.toNat := rfl
  unfold encodeChar String.utf8EncodeChar
  simp only [value, byte, Nat.add_comm 0x80, Nat.lt_succ_iff]
  split
  · rfl
  · split
    · have first : c.toNat / 0x40 % 0x20 + 0xC0 = 0xC0 + c.toNat / 0x40 := by omega
      rw [first]
    · split
      · have first : c.toNat / 0x1000 % 0x10 + 0xE0 = 0xE0 + c.toNat / 0x1000 := by omega
        rw [first]
      · have first : c.toNat / 0x40000 % 8 + 0xF0 = 0xF0 + c.toNat / 0x40000 := by omega
        rw [first]

theorem toByteArray_encode (text : List Char) : (encode text).toByteArray = text.utf8Encode := by
  have same : encodeChar = String.utf8EncodeChar := funext encodeChar_eq
  rw [encode, same, List.utf8Encode]

/-! One byte at a time. -/

theorem decodeFrom_accepted {part : Partial} {b : UInt8} (accepted : part.accepts b = true) (rest : Bytes) :
    decodeFrom (some part) (b :: rest) =
      if part.due ≤ 1 then some (Char.ofNat (part.extend b)) :: decodeFrom none rest
      else decodeFrom (some ⟨part.due - 1, 0x80, 0xBF, part.extend b⟩) rest := by
  rw [decodeFrom, if_pos accepted]

/-- A byte that does not go on with a character begins a new part. -/
theorem decodeFrom_refused {part : Partial} {b : UInt8} (refused : part.accepts b = false) (rest : Bytes) :
    decodeFrom (some part) (b :: rest) = none :: decodeFrom none (b :: rest) := by
  simp only [decodeFrom, refused, Bool.false_eq_true, if_false]

theorem accepts_iff {part : Partial} {b : UInt8} :
    part.accepts b = true ↔ part.low ≤ b.toNat ∧ b.toNat ≤ part.high := by
  simp [Partial.accepts]

/-! Encoded text is read back. -/

theorem toNat_tail {k : Nat} (small : k < 0x40) : (byte (0x80 + k)).toNat = 0x80 + k := toNat_byte (by omega)

theorem extend_tail {part : Partial} {k : Nat} (small : k < 0x40) :
    part.extend (byte (0x80 + k)) = part.value * 0x40 + k := by
  have number := toNat_tail small
  unfold Partial.extend
  omega

variable {low high value k : Nat}

theorem decodeFrom_last (small : k < 0x40) (above : low ≤ 0x80 + k) (below : 0x80 + k ≤ high) (rest : Bytes) :
    decodeFrom (some ⟨1, low, high, value⟩) (byte (0x80 + k) :: rest) =
      some (Char.ofNat (value * 0x40 + k)) :: decodeFrom none rest := by
  have accepted : (Partial.mk 1 low high value).accepts (byte (0x80 + k)) = true := by
    rw [accepts_iff, toNat_tail small]
    exact ⟨above, below⟩
  rw [decodeFrom_accepted accepted, extend_tail small, if_pos (Nat.le_refl 1)]

/-- A byte between the first and the last one of a character. -/
theorem decodeFrom_inner {due : Nat} (small : k < 0x40) (above : low ≤ 0x80 + k) (below : 0x80 + k ≤ high)
    (rest : Bytes) :
    decodeFrom (some ⟨due + 2, low, high, value⟩) (byte (0x80 + k) :: rest) =
      decodeFrom (some ⟨due + 1, 0x80, 0xBF, value * 0x40 + k⟩) rest := by
  have accepted : (Partial.mk (due + 2) low high value).accepts (byte (0x80 + k)) = true := by
    rw [accepts_iff, toNat_tail small]
    exact ⟨above, below⟩
  have more : ¬ due + 2 ≤ 1 := by omega
  rw [decodeFrom_accepted accepted, extend_tail small, if_neg more]
  rfl

theorem lead_one {n : Nat} (below : n < 0x80) : lead (byte n) = .whole (Char.ofNat n) := by
  have number : (byte n).toNat = n := toNat_byte (by omega)
  simp only [lead, number, below, if_true]

theorem lead_two {n : Nat} (above : 0x80 ≤ n) (below : n < 0x800) :
    lead (byte (0xC0 + n / 0x40)) = .start ⟨1, 0x80, 0xBF, n / 0x40⟩ := by
  have number : (byte (0xC0 + n / 0x40)).toNat = 0xC0 + n / 0x40 := toNat_byte (by omega)
  have more : ¬ 0xC0 + n / 0x40 < 0x80 := by omega
  have legal : ¬ 0xC0 + n / 0x40 < 0xC2 := by omega
  have two : 0xC0 + n / 0x40 < 0xE0 := by omega
  simp only [lead, number, more, legal, two, if_true, if_false, Nat.add_sub_cancel_left]

/-- The range of the second byte has room for what is no shorter form and no surrogate. -/
theorem lead_three {n : Nat} (above : 0x800 ≤ n) (below : n < 0x10000) (scalar : n < 0xD800 ∨ 0xDFFF < n) :
    ∃ low high, lead (byte (0xE0 + n / 0x1000)) = .start ⟨2, low, high, n / 0x1000⟩ ∧
      low ≤ 0x80 + n / 0x40 % 0x40 ∧ 0x80 + n / 0x40 % 0x40 ≤ high := by
  have number : (byte (0xE0 + n / 0x1000)).toNat = 0xE0 + n / 0x1000 := toNat_byte (by omega)
  have split : n / 0x1000 = 0 ∨ n / 0x1000 = 0xD ∨
      0 < n / 0x1000 ∧ n / 0x1000 ≠ 0xD ∧ n / 0x1000 < 0x10 := by omega
  -- the first bytes 0xE0 and 0xED narrow the range of the second byte, all others leave it open
  rcases split with zero | surrogate | ⟨positive, other, small⟩
  · refine ⟨0xA0, 0xBF, by rw [zero]; rfl, by omega, by omega⟩
  · refine ⟨0x80, 0x9F, by rw [surrogate]; rfl, by omega, by omega⟩
  · refine ⟨0x80, 0xBF, ?_, by omega, by omega⟩
    generalize n / 0x1000 = q at *
    have more : ¬ 0xE0 + q < 0x80 := by omega
    have legal : ¬ 0xE0 + q < 0xC2 := by omega
    have three : ¬ 0xE0 + q < 0xE0 := by omega
    have first : ¬ 0xE0 + q = 0xE0 := by omega
    have surrogate : ¬ 0xE0 + q = 0xED := by omega
    have last : 0xE0 + q < 0xF0 := by omega
    simp only [lead, number, more, legal, three, first, surrogate, last, if_true, if_false, Nat.add_sub_cancel_left]

theorem lead_four {n : Nat} (above : 0x10000 ≤ n) (below : n < 0x110000) :
    ∃ low high, lead (byte (0xF0 + n / 0x40000)) = .start ⟨3, low, high, n / 0x40000⟩ ∧
      low ≤ 0x80 + n / 0x1000 % 0x40 ∧ 0x80 + n / 0x1000 % 0x40 ≤ high := by
  have split : n / 0x40000 = 0 ∨ n / 0x40000 = 1 ∨ n / 0x40000 = 2 ∨ n / 0x40000 = 3 ∨ n / 0x40000 = 4 := by omega
  rcases split with zero | one | two | three | four
  · exact ⟨0x90, 0xBF, by rw [zero]; rfl, by omega, by omega⟩
  · exact ⟨0x80, 0xBF, by rw [one]; rfl, by omega, by omega⟩
  · exact ⟨0x80, 0xBF, by rw [two]; rfl, by omega, by omega⟩
  · exact ⟨0x80, 0xBF, by rw [three]; rfl, by omega, by omega⟩
  · exact ⟨0x80, 0x8F, by rw [four]; rfl, by omega, by omega⟩

theorem decodeFrom_start {b : UInt8} {part : Partial} (leads : lead b = .start part) (rest : Bytes) :
    decodeFrom none (b :: rest) = decodeFrom (some part) rest := by
  simp only [decodeFrom, leads]

theorem decodeFrom_encodeChar (c : Char) (rest : Bytes) :
    decodeFrom none (encodeChar c ++ rest) = some c :: decodeFrom none rest := by
  have scalar := toNat_scalar c
  have back : Char.ofNat c.toNat = c := Char.ofNat_toNat c
  simp only [encodeChar]
  generalize c.toNat = n at *
  -- one case for each length: the lead opens the part, and each tail byte puts six bits back in place
  split
  · rename_i one
    simp only [List.singleton_append, decodeFrom, lead_one one, back]
  · split
    · rename_i two
      have leads := lead_two (by omega) two
      have value : n / 0x40 * 0x40 + n % 0x40 = n := by omega
      simp only [List.cons_append, List.nil_append]
      rw [decodeFrom_start leads, decodeFrom_last (by omega) (by omega) (by omega), value, back]
    · split
      · rename_i three
        obtain ⟨low, high, leads, above, below⟩ := lead_three (by omega) three (by omega)
        have value : (n / 0x1000 * 0x40 + n / 0x40 % 0x40) * 0x40 + n % 0x40 = n := by omega
        simp only [List.cons_append, List.nil_append]
        rw [decodeFrom_start leads, decodeFrom_inner (by omega) above below,
          decodeFrom_last (by omega) (by omega) (by omega), value, back]
      · have atLeast : 0x10000 ≤ n := by omega
        obtain ⟨low, high, leads, above, below⟩ := lead_four atLeast (by omega)
        have value : ((n / 0x40000 * 0x40 + n / 0x1000 % 0x40) * 0x40 + n / 0x40 % 0x40) * 0x40 + n % 0x40 = n := by
          omega
        simp only [List.cons_append, List.nil_append]
        rw [decodeFrom_start leads, decodeFrom_inner (by omega) above below,
          decodeFrom_inner (by omega) (by omega) (by omega), decodeFrom_last (by omega) (by omega) (by omega),
          value, back]

theorem decode_encode (text : List Char) : decode (encode text) = text.map some := by
  induction text with
  | nil => rfl
  | cons c rest ih =>
    rw [encode, List.flatMap_cons, decode, decodeFrom_encodeChar]
    exact congrArg (some c :: ·) ih

theorem decodeLossy_encode (text : List Char) : decodeLossy (encode text) = text := by
  rw [decodeLossy, decode_encode, List.map_map]
  exact List.map_id text

/-! What is read is a way to cut the byte string up. -/

/-- A byte string cut into characters, each with its own bytes, and bytes that are no character. -/
inductive Cut : Bytes → List (Option Char) → Prop where
  | nil : Cut [] []
  | char (c : Char) {rest : Bytes} {parts : List (Option Char)} :
    Cut rest parts → Cut (encodeChar c ++ rest) (some c :: parts)
  | stray (junk : Bytes) {rest : Bytes} {parts : List (Option Char)} :
    Cut rest parts → Cut (junk ++ rest) (none :: parts)

/-- What of a value comes before its last bytes. -/
def leading : Nat → Nat → Nat
  | 0, n => n
  | due + 1, n => leading due n / 0x40

def tail : Nat → Nat → Bytes
  | 0, _ => []
  | due + 1, n => byte (0x80 + leading due n % 0x40) :: tail due n

/-- The bytes that were taken begin every character that the part can become. -/
structure Partial.Follows (part : Partial) (taken : Bytes) : Prop where
  due : 0 < part.due
  low : 0x80 ≤ part.low
  high : part.high ≤ 0xBF
  spells : ∀ n, leading part.due n = part.value →
    part.low ≤ 0x80 + leading (part.due - 1) n % 0x40 → 0x80 + leading (part.due - 1) n % 0x40 ≤ part.high →
      encodeChar (Char.ofNat n) = taken ++ tail part.due n

theorem toNat_ofNat {n : Nat} (scalar : n < 0xD800 ∨ 0xDFFF < n ∧ n < 0x110000) : (Char.ofNat n).toNat = n := by
  have valid : n.isValidChar := scalar
  rw [Char.ofNat, dif_pos valid]
  rfl

theorem eq_byte {b : UInt8} {n : Nat} (number : b.toNat = n) : b = byte n := by
  rw [← number, byte, UInt8.ofNat_toNat]

variable {b : UInt8} {part : Partial}

theorem follows_two {q : Nat} (number : b.toNat = 0xC0 + q) (low : 2 ≤ q) (high : q < 0x20) :
    (Partial.mk 1 0x80 0xBF q).Follows [b] := by
  refine ⟨Nat.one_pos, Nat.le_refl _, Nat.le_refl _, fun n value _ _ => ?_⟩
  simp only [leading] at value
  have scalar : n < 0xD800 ∨ 0xDFFF < n ∧ n < 0x110000 := by omega
  have one : ¬ n < 0x80 := by omega
  have two : n < 0x800 := by omega
  simp [encodeChar, toNat_ofNat scalar, one, two, value, eq_byte number, tail, leading]

theorem follows_three {q low high : Nat} (number : b.toNat = 0xE0 + q) (least : 0x80 ≤ low) (most : high ≤ 0xBF)
    (range : ∀ k, k < 0x40 → low ≤ 0x80 + k → 0x80 + k ≤ high → 0x20 ≤ q * 0x40 + k ∧ q * 0x40 + k < 0x400 ∧
      (q * 0x40 + k < 0x360 ∨ 0x37F < q * 0x40 + k)) :
    (Partial.mk 2 low high q).Follows [b] := by
  refine ⟨Nat.succ_pos _, least, most, fun n value above below => ?_⟩
  simp only [Nat.reduceSub, leading] at value above below
  have inside := range (n / 0x40 % 0x40) (by omega) above below
  have scalar : n < 0xD800 ∨ 0xDFFF < n ∧ n < 0x110000 := by omega
  have one : ¬ n < 0x80 := by omega
  have two : ¬ n < 0x800 := by omega
  have three : n < 0x10000 := by omega
  have first : n / 0x1000 = q := by omega
  simp [encodeChar, toNat_ofNat scalar, one, two, three, first, eq_byte number, tail, leading]

theorem follows_four {q low high : Nat} (number : b.toNat = 0xF0 + q) (least : 0x80 ≤ low) (most : high ≤ 0xBF)
    (range : ∀ k, k < 0x40 → low ≤ 0x80 + k → 0x80 + k ≤ high → 0x10 ≤ q * 0x40 + k ∧ q * 0x40 + k < 0x110) :
    (Partial.mk 3 low high q).Follows [b] := by
  refine ⟨Nat.succ_pos _, least, most, fun n value above below => ?_⟩
  simp only [Nat.reduceSub, leading] at value above below
  have inside := range (n / 0x40 / 0x40 % 0x40) (by omega) above below
  have scalar : n < 0xD800 ∨ 0xDFFF < n ∧ n < 0x110000 := by omega
  have one : ¬ n < 0x80 := by omega
  have two : ¬ n < 0x800 := by omega
  have three : ¬ n < 0x10000 := by omega
  have first : n / 0x40000 = q := by omega
  have second : n / 0x40 / 0x40 = n / 0x1000 := by omega
  simp [encodeChar, toNat_ofNat scalar, one, two, three, first, second, eq_byte number, tail, leading]

theorem lead_follows (leads : lead b = .start part) : part.Follows [b] := by
  have size : b.toNat < 0x100 := b.toNat_lt
  simp only [lead] at leads
  -- one case for each row of the table; what is left out of a row is too short a form, a surrogate or too large
  split_ifs at leads <;> cases leads
  · exact follows_two (by omega) (by omega) (by omega)
  · exact follows_three (by omega) (by omega) (by omega) (by omega)
  · exact follows_three (by omega) (by omega) (by omega) (by omega)
  · exact follows_three (by omega) (by omega) (by omega) (by omega)
  · exact follows_four (by omega) (by omega) (by omega) (by omega)
  · exact follows_four (by omega) (by omega) (by omega) (by omega)
  · exact follows_four (by omega) (by omega) (by omega) (by omega)

theorem lead_whole {c : Char} (leads : lead b = .whole c) : encodeChar c = [b] := by
  simp only [lead] at leads
  split_ifs at leads with one
  cases leads
  have scalar : b.toNat < 0xD800 ∨ 0xDFFF < b.toNat ∧ b.toNat < 0x110000 := by omega
  simp [encodeChar, toNat_ofNat scalar, one, byte]

/-- What a byte that is accepted leaves: the tail of a character, or a whole one. -/
theorem Partial.Follows.accepted {taken : Bytes} (follows : part.Follows taken) (accepted : part.accepts b = true) :
    if part.due ≤ 1 then encodeChar (Char.ofNat (part.extend b)) = taken ++ [b]
    else (Partial.mk (part.due - 1) 0x80 0xBF (part.extend b)).Follows (taken ++ [b]) := by
  obtain ⟨due, low, high, spells⟩ := follows
  rw [accepts_iff] at accepted
  obtain ⟨left, positive⟩ : ∃ left, part.due = left + 1 := ⟨part.due - 1, by omega⟩
  have same : part.extend b / 0x40 = part.value ∧ 0x80 + part.extend b % 0x40 = b.toNat := by
    unfold Partial.extend
    omega
  -- the byte that was accepted is the next one of every character that the longer part can become
  have whole : ∀ n, leading left n = part.extend b → encodeChar (Char.ofNat n) = (taken ++ [b]) ++ tail left n := by
    intro n value
    have further : leading (left + 1) n = part.value := by rw [leading, value, same.1]
    have spelled := spells n (positive ▸ further)
    rw [positive, Nat.add_sub_cancel, value, same.2] at spelled
    rw [spelled accepted.1 accepted.2, tail, value, same.2, byte, UInt8.ofNat_toNat]
    simp
  by_cases last : part.due ≤ 1
  · obtain rfl : left = 0 := by omega
    rw [if_pos last]
    simpa [tail] using whole (part.extend b) rfl
  · rw [if_neg last]
    refine ⟨Nat.sub_pos_of_lt (by omega), Nat.le_refl _, Nat.le_refl _, fun n value _ _ => ?_⟩
    simp only [positive, Nat.add_sub_cancel] at value ⊢
    exact whole n value

theorem decodeFrom_cut (bytes : Bytes) :
    Cut bytes (decodeFrom none bytes) ∧
      ∀ part taken, part.Follows taken → Cut (taken ++ bytes) (decodeFrom (some part) bytes) := by
  -- both at once: a character that is cut short gives its byte back to the reading between characters
  induction bytes with
  | nil =>
    refine ⟨.nil, fun part taken _ => ?_⟩
    exact .stray taken .nil
  | cons b rest ih =>
    obtain ⟨between, within⟩ := ih
    have first : Cut (b :: rest) (decodeFrom none (b :: rest)) := by
      cases leads : lead b with
      | whole c =>
        have cut := Cut.char c between
        rw [lead_whole leads] at cut
        simpa only [decodeFrom, leads, List.singleton_append] using cut
      | start part =>
        rw [decodeFrom_start leads]
        exact within part [b] (lead_follows leads)
      | stray =>
        have cut := Cut.stray [b] between
        simpa only [decodeFrom, leads, List.singleton_append] using cut
    refine ⟨first, fun part taken follows => ?_⟩
    cases accepted : part.accepts b with
    | false =>
      rw [decodeFrom_refused accepted]
      exact .stray taken first
    | true =>
      have next := follows.accepted accepted
      rw [decodeFrom_accepted accepted, List.append_cons]
      split
      · rename_i last
        rw [if_pos last] at next
        rw [← next]
        exact .char _ between
      · rename_i more
        rw [if_neg more] at next
        exact within _ _ next

theorem decode_cut (bytes : Bytes) : Cut bytes (decode bytes) := (decodeFrom_cut bytes).1

/-- An ASCII character that is read is a byte of the string. -/
theorem Cut.byte_mem {bytes : Bytes} {parts : List (Option Char)} (cut : Cut bytes parts) {c : Char}
    (read : some c ∈ parts) (ascii : c.toNat < 0x80) : byte c.toNat ∈ bytes := by
  induction cut with
  | nil => cases read
  | char other _ ih =>
    rw [List.mem_append]
    rcases List.mem_cons.1 read with same | later
    · cases same
      left
      simp [encodeChar, ascii]
    · exact .inr (ih later)
  | stray junk _ ih =>
    rw [List.mem_append]
    rcases List.mem_cons.1 read with same | later
    · cases same
    · exact .inr (ih later)

/-- A string that is cut into characters alone encodes them. -/
theorem Cut.eq_encode {bytes : Bytes} {text : List Char} (cut : Cut bytes (text.map some)) : bytes = encode text := by
  induction text generalizing bytes with
  | nil =>
    cases cut
    rfl
  | cons c rest ih =>
    cases cut with
    | char _ cut => rw [ih cut, encode, encode, List.flatMap_cons]

theorem mapM_id_eq_some_iff {parts : List (Option Char)} {text : List Char} :
    parts.mapM id = some text ↔ parts = text.map some := by
  induction parts generalizing text with
  | nil => cases text <;> simp
  | cons part rest ih =>
    cases part with
    | none => cases text <;> simp
    | some c =>
      simp only [List.mapM_cons, id_eq, Option.bind_eq_bind, Option.bind_some, Option.bind_eq_some_iff,
        Option.pure_def, Option.some.injEq, ih]
      cases text with
      | nil => simp
      | cons other others => simp [and_comm]

/-- Reading that stands for no invalid part is the inverse of encoding. -/
theorem decode?_eq_some_iff {bytes : Bytes} {text : List Char} : decode? bytes = some text ↔ bytes = encode text := by
  rw [decode?, mapM_id_eq_some_iff]
  constructor
  · intro parts
    exact (parts ▸ decode_cut bytes).eq_encode
  · rintro rfl
    exact decode_encode text

/-! An ASCII byte ends whatever is under way. -/

theorem decodeFrom_append {b : UInt8} (ascii : b.toNat < 0x80) (before after : Bytes) :
    decodeFrom none (before ++ b :: after) =
        decodeFrom none before ++ some (Char.ofNat b.toNat) :: decodeFrom none after ∧
      ∀ part : Partial, 0x80 ≤ part.low → decodeFrom (some part) (before ++ b :: after) =
        decodeFrom (some part) before ++ some (Char.ofNat b.toNat) :: decodeFrom none after := by
  have leads : lead b = .whole (Char.ofNat b.toNat) := by simp [lead, ascii]
  have alone (rest : Bytes) : decodeFrom none (b :: rest) = some (Char.ofNat b.toNat) :: decodeFrom none rest := by
    simp only [decodeFrom, leads]
  -- both at once, as for the cut
  induction before with
  | nil =>
    refine ⟨alone after, fun part low => ?_⟩
    have refused : part.accepts b = false := by
      rw [Bool.eq_false_iff, Ne, accepts_iff]
      omega
    rw [List.nil_append, decodeFrom_refused refused, alone]
    rfl
  | cons c rest ih =>
    obtain ⟨between, within⟩ := ih
    have first : decodeFrom none (c :: (rest ++ b :: after)) =
        decodeFrom none (c :: rest) ++ some (Char.ofNat b.toNat) :: decodeFrom none after := by
      cases leads : lead c with
      | whole d => simp only [decodeFrom, leads, between, List.cons_append]
      | start part =>
        rw [decodeFrom_start leads, decodeFrom_start leads]
        exact within part (lead_follows leads).low
      | stray => simp only [decodeFrom, leads, between, List.cons_append]
    refine ⟨first, fun part low => ?_⟩
    rw [List.cons_append]
    cases accepted : part.accepts c with
    | false => rw [decodeFrom_refused accepted, decodeFrom_refused accepted, first, List.cons_append]
    | true =>
      rw [decodeFrom_accepted accepted, decodeFrom_accepted accepted]
      split
      · rw [between, List.cons_append]
      · exact within _ (Nat.le_refl _)

/-- A byte string may be read in parts that an ASCII byte divides, even where a character is cut short before it. -/
theorem decodeLossy_append {b : UInt8} (ascii : b.toNat < 0x80) (before after : Bytes) :
    decodeLossy (before ++ b :: after) = decodeLossy before ++ Char.ofNat b.toNat :: decodeLossy after := by
  simp [decodeLossy, decode, (decodeFrom_append ascii before after).1]

theorem decodeLossy_intercalate {b : UInt8} (ascii : b.toNat < 0x80) (parts : List Bytes) :
    decodeLossy ([b].intercalate parts) = [Char.ofNat b.toNat].intercalate (parts.map decodeLossy) := by
  induction parts with
  | nil => rfl
  | cons part rest ih =>
    cases rest with
    | nil => simp
    | cons next others =>
      rw [List.map_cons] at ih
      simp only [List.map_cons, List.intercalate_cons_cons, List.append_assoc, List.singleton_append]
      rw [decodeLossy_append ascii, ih]

theorem ascii_mem_of_mem_decodeLossy {bytes : Bytes} {c : Char} (read : c ∈ decodeLossy bytes)
    (ascii : c.toNat < 0x80) : byte c.toNat ∈ bytes := by
  obtain ⟨part, member, same⟩ := List.mem_map.1 read
  cases part with
  | none =>
    -- the replacement character is not ASCII
    subst same
    exact absurd ascii (by decide)
  | some other =>
    cases same
    exact (decode_cut bytes).byte_mem member ascii

end Sluice.Utf8

namespace Sluice.Bytes

/-- A byte string is UTF-8 by the standard if it keeps its bytes when what it is read as is encoded again. -/
theorem ofText_toTextLossy_eq_iff {bytes : Bytes} :
    ofText (toTextLossy bytes) = bytes ↔ bytes.toByteArray.IsValidUTF8 := by
  rw [ofText, toTextLossy, String.toList_ofList]
  constructor
  · intro same
    rw [← same, Utf8.toByteArray_encode]
    exact .intro _ rfl
  · rintro ⟨text, same⟩
    rw [← Utf8.toByteArray_encode, List.toByteArray_inj] at same
    rw [same, Utf8.decodeLossy_encode]

theorem toTextLossy_ofText (text : String) : toTextLossy (ofText text) = text := by
  rw [toTextLossy, ofText, Utf8.decodeLossy_encode, String.ofList_toList]

theorem toText?_eq_some_iff {bytes : Bytes} {text : String} : toText? bytes = some text ↔ bytes = ofText text := by
  rw [toText?, Option.map_eq_some_iff, ofText]
  constructor
  · rintro ⟨chars, read, rfl⟩
    rw [String.toList_ofList]
    exact Utf8.decode?_eq_some_iff.1 read
  · intro same
    exact ⟨text.toList, Utf8.decode?_eq_some_iff.2 same, String.ofList_toList⟩

end Sluice.Bytes
