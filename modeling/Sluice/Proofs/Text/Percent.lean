import Mathlib.Data.List.Basic
import Sluice.Proofs.Text.Ascii
import Sluice.Text.Percent

/-! Percent-encoded text. A byte string can be spelled in several ways, since any byte may be escaped and the digits of an
escape have two cases; decoding takes every spelling back to the bytes. -/

set_option autoImplicit false

namespace Sluice

namespace Ascii

/-- The hexadecimal digits are letters and digits of ASCII. -/
theorem hexValue?_eq_some {c : Char} {n : Nat} (value : hexValue? c = some n) :
    n < 16 ∧ (48 ≤ c.toNat ∧ c.toNat ≤ 57 ∨ 65 ≤ c.toNat ∧ c.toNat ≤ 70 ∨ 97 ≤ c.toNat ∧ c.toNat ≤ 102) := by
  unfold hexValue? at value
  split_ifs at value with digit lower upper
  · rw [isDigit_iff] at digit
    obtain rfl := Option.some.inj value
    omega
  · simp only [Bool.and_eq_true, decide_eq_true_eq, Char.le_def, UInt32.le_iff_toNat_le] at lower
    change 97 ≤ c.toNat ∧ c.toNat ≤ 102 at lower
    obtain rfl := Option.some.inj value
    omega
  · simp only [Bool.and_eq_true, decide_eq_true_eq, Char.le_def, UInt32.le_iff_toNat_le] at upper
    change 65 ≤ c.toNat ∧ c.toNat ≤ 70 at upper
    obtain rfl := Option.some.inj value
    omega

end Ascii

namespace Percent

/-- The characters that stand for themselves wherever they are. -/
def isUnreserved (c : Char) : Bool := Ascii.isDigit c || Ascii.isLetter c || "-._~".toList.contains c

theorem isUnreserved_iff {c : Char} : isUnreserved c = true ↔ (48 ≤ c.toNat ∧ c.toNat ≤ 57) ∨
    (65 ≤ c.toNat ∧ c.toNat ≤ 90) ∨ (97 ≤ c.toNat ∧ c.toNat ≤ 122) ∨ c = '-' ∨ c = '.' ∨ c = '_' ∨ c = '~' := by
  simp [isUnreserved, Ascii.isLetter, Ascii.isDigit_iff, Ascii.isUpper_iff, Ascii.isLower_iff, or_assoc]

theorem isUnreserved_of_hexValue? {c : Char} {n : Nat} (value : Ascii.hexValue? c = some n) :
    isUnreserved c = true := by
  have range := (Ascii.hexValue?_eq_some value).2
  rw [isUnreserved_iff]
  omega

theorem visible_of_isUnreserved {c : Char} (unreserved : isUnreserved c = true) : 0x20 < c.toNat ∧ c.toNat < 0x7F := by
  rcases isUnreserved_iff.1 unreserved with digit | upper | lower | rfl | rfl | rfl | rfl
  · omega
  · omega
  · omega
  all_goals decide

theorem ascii_of_isUnreserved {c : Char} (unreserved : isUnreserved c = true) : c.toNat < 0x80 := by
  have visible := visible_of_isUnreserved unreserved
  omega

theorem ne_of_isUnreserved {c d : Char} (unreserved : isUnreserved c = true) (reserved : isUnreserved d = false) :
    c ≠ d := by
  rintro rfl
  simp [unreserved] at reserved

/-- The spellings of a byte string. A plus sign may spell a space where that is agreed on. -/
inductive Spells (plus : Bool) : Bytes → List Char → Prop where
  | nil : Spells plus [] []
  | unreserved {c : Char} {bytes : Bytes} {text : List Char} : isUnreserved c = true →
    Spells plus bytes text → Spells plus (Utf8.byte c.toNat :: bytes) (c :: text)
  | escape {high low : Char} {h l : Nat} {bytes : Bytes} {text : List Char} : Ascii.hexValue? high = some h →
    Ascii.hexValue? low = some l → Spells plus bytes text →
    Spells plus (Utf8.byte (16 * h + l) :: bytes) ('%' :: high :: low :: text)
  | space {bytes : Bytes} {text : List Char} : plus = true →
    Spells plus bytes text → Spells plus (0x20 :: bytes) ('+' :: text)

variable {plus : Bool} {bytes : Bytes} {text : List Char}

theorem Spells.char (spells : Spells plus bytes text) :
    ∀ c ∈ text, isUnreserved c = true ∨ c = '%' ∨ c = '+' := by
  induction spells with
  | nil => exact nofun
  | unreserved plain _ ih => simpa [plain] using ih
  | escape high low _ ih =>
    simpa [isUnreserved_of_hexValue? high, isUnreserved_of_hexValue? low] using ih
  | space _ _ ih => simpa using ih

theorem Spells.not_mem (spells : Spells plus bytes text) {c : Char} (reserved : isUnreserved c = false)
    (noPercent : c ≠ '%') (noPlus : c ≠ '+') : c ∉ text := by
  intro member
  rcases spells.char c member with plain | percent | sign
  · simp [reserved] at plain
  · exact noPercent percent
  · exact noPlus sign

/-! Decoding. -/

theorem decode_plain {b : UInt8} (other : b ≠ 0x25) (rest : Bytes) : decode (b :: rest) = b :: decode rest := by
  have plain : (b == 0x25) = false := by simpa using other
  match rest with
  | [] => rfl
  | [_] => rfl
  | _ :: _ :: _ => simp only [decode, plain, Bool.false_eq_true, if_false]

theorem decode_escape {high low : Char} {h l : Nat} (first : Ascii.hexValue? high = some h)
    (second : Ascii.hexValue? low = some l) (rest : Bytes) :
    decode (0x25 :: Utf8.byte high.toNat :: Utf8.byte low.toNat :: rest) = Utf8.byte (16 * h + l) :: decode rest := by
  have highAscii := ascii_of_isUnreserved (isUnreserved_of_hexValue? first)
  have lowAscii := ascii_of_isUnreserved (isUnreserved_of_hexValue? second)
  have escapes : escape? (Utf8.byte high.toNat) (Utf8.byte low.toNat) = some (Utf8.byte (16 * h + l)) := by
    simp [escape?, Ascii.latin1_byte highAscii, Ascii.latin1_byte lowAscii, first, second]
  simp [decode, escapes]

theorem ne_percent_of_isUnreserved {c : Char} (unreserved : isUnreserved c = true) : Utf8.byte c.toNat ≠ 0x25 := by
  have other := ne_of_isUnreserved unreserved (by decide : isUnreserved '%' = false)
  exact fun same => other ((Ascii.byte_inj (ascii_of_isUnreserved unreserved) (by decide)).1 same)

/-- The character that is decoded for one that stands in a query: a plus sign is a space. -/
def unplus (c : Char) : Char := if c == '+' then ' ' else c

theorem unplus_of_ne {c : Char} (other : c ≠ '+') : unplus c = c := by simp [unplus, other]

theorem ne_plus_of_isUnreserved {c : Char} (unreserved : isUnreserved c = true) : c ≠ '+' :=
  ne_of_isUnreserved unreserved (by decide)

/-- Whatever the spelling, decoding finds the bytes. -/
theorem Spells.decode_unplus (spells : Spells plus bytes text) : decode (Utf8.encode (text.map unplus)) = bytes := by
  induction spells with
  | nil => rfl
  | unreserved plain _ ih =>
    rw [List.map_cons, unplus_of_ne (ne_plus_of_isUnreserved plain),
      Utf8.encode_cons_of_ascii (ascii_of_isUnreserved plain), decode_plain (ne_percent_of_isUnreserved plain), ih]
  | escape high low _ ih =>
    -- no character of an escape is a plus sign, so it reaches the decoder as it is
    have first := isUnreserved_of_hexValue? high
    have second := isUnreserved_of_hexValue? low
    rw [List.map_cons, List.map_cons, List.map_cons, unplus_of_ne (by decide),
      unplus_of_ne (ne_plus_of_isUnreserved first), unplus_of_ne (ne_plus_of_isUnreserved second),
      Utf8.encode_cons_of_ascii (by decide), Utf8.encode_cons_of_ascii (ascii_of_isUnreserved first),
      Utf8.encode_cons_of_ascii (ascii_of_isUnreserved second)]
    exact (decode_escape high low _).trans (congrArg (_ :: ·) ih)
  | space _ _ ih =>
    rw [List.map_cons, Utf8.encode_cons_of_ascii (by decide)]
    exact (decode_plain (by decide) _).trans (congrArg (_ :: ·) ih)

theorem Spells.map_unplus (spells : Spells false bytes text) : text.map unplus = text := by
  induction spells with
  | nil => rfl
  | unreserved plain _ ih => rw [List.map_cons, unplus_of_ne (ne_plus_of_isUnreserved plain), ih]
  | escape high low _ ih =>
    have first := ne_plus_of_isUnreserved (isUnreserved_of_hexValue? high)
    have second := ne_plus_of_isUnreserved (isUnreserved_of_hexValue? low)
    simp [unplus, first, second, ih]
  | space agreed _ _ => cases agreed

theorem Spells.decode (spells : Spells false bytes text) : decode (Utf8.encode text) = bytes := by
  rw [← spells.map_unplus, spells.decode_unplus]

/-! Every byte string has a spelling: one that escapes no more than it has to. -/

def encodeByte (b : UInt8) : List Char :=
  if isUnreserved (Ascii.latin1 b) then [Ascii.latin1 b]
  else ['%', Bytes.hexDigit (b.toNat / 16), Bytes.hexDigit (b.toNat % 16)]

def encode (bytes : Bytes) : List Char := bytes.flatMap encodeByte

theorem hexValue?_hexDigit {n : Nat} (small : n < 16) : Ascii.hexValue? (Bytes.hexDigit n) = some n := by
  have each : ∀ n : Fin 16, Ascii.hexValue? (Bytes.hexDigit n) = some n.val := by decide
  exact each ⟨n, small⟩

theorem byte_latin1 (b : UInt8) : Utf8.byte (Ascii.latin1 b).toNat = b := by
  have size : b.toNat < 0x100 := b.toNat_lt
  rw [Ascii.latin1, Utf8.toNat_ofNat (by omega), Utf8.byte, UInt8.ofNat_toNat]

theorem spells_encode (plus : Bool) (bytes : Bytes) : Spells plus bytes (encode bytes) := by
  induction bytes with
  | nil => exact .nil
  | cons b rest ih =>
    rw [encode, List.flatMap_cons, encodeByte]
    split
    · rename_i plain
      have spells := Spells.unreserved plain ih
      rwa [byte_latin1] at spells
    · have size : b.toNat < 0x100 := b.toNat_lt
      have spells := Spells.escape (hexValue?_hexDigit (by omega : b.toNat / 16 < 16))
        (hexValue?_hexDigit (by omega : b.toNat % 16 < 16)) ih
      rwa [Nat.div_add_mod, Utf8.byte, UInt8.ofNat_toNat] at spells

end Percent

end Sluice
