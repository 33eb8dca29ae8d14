import Sluice.Proofs.Text.Utf8
import Sluice.Text.Ascii

/-! The classes of ASCII characters as ranges of numbers, lower case, and the bytes of ASCII text: each character is one
byte, which stands for nothing else. -/

set_option autoImplicit false

namespace Sluice

namespace Ascii

theorem isDigit_iff {c : Char} : isDigit c = true ↔ 48 ≤ c.toNat ∧ c.toNat ≤ 57 := by
  simp only [isDigit, Bool.and_eq_true, decide_eq_true_eq, Char.le_def, UInt32.le_iff_toNat_le]
  rfl

theorem isUpper_iff {c : Char} : isUpper c = true ↔ 65 ≤ c.toNat ∧ c.toNat ≤ 90 := by
  simp only [isUpper, Bool.and_eq_true, decide_eq_true_eq, Char.le_def, UInt32.le_iff_toNat_le]
  rfl

theorem isLower_iff {c : Char} : isLower c = true ↔ 97 ≤ c.toNat ∧ c.toNat ≤ 122 := by
  simp only [isLower, Bool.and_eq_true, decide_eq_true_eq, Char.le_def, UInt32.le_iff_toNat_le]
  rfl

/-- The characters of a token by RFC 7230. -/
def IsTchar (c : Char) : Prop := 48 ≤ c.toNat ∧ c.toNat ≤ 57 ∨ 65 ≤ c.toNat ∧ c.toNat ≤ 90 ∨
  97 ≤ c.toNat ∧ c.toNat ≤ 122 ∨ c ∈ "!#$%&'*+-.^_`|~".toList

instance (c : Char) : Decidable (IsTchar c) := inferInstanceAs (Decidable (_ ∨ _ ∨ _ ∨ _))

def AllTchar (text : List Char) : Prop := ∀ c ∈ text, IsTchar c

-- the instance that goes through the text, not the one that goes through all characters
instance (text : List Char) : Decidable (AllTchar text) := List.decidableBAll IsTchar text

theorem isTokenChar_iff {c : Char} : isTokenChar c = true ↔ IsTchar c := by
  simp only [isTokenChar, isLetter, Bool.or_eq_true, isDigit_iff, isUpper_iff, isLower_iff, List.contains_iff_mem,
    or_assoc, IsTchar]

theorem IsTchar.ascii {c : Char} (token : IsTchar c) : c.toNat < 0x80 := by
  rcases token with digit | upper | lower | mark
  · omega
  · omega
  · omega
  · have each : "!#$%&'*+-.^_`|~".toList.all (fun c => c.toNat < 0x80) = true := by decide
    exact of_decide_eq_true (List.all_eq_true.1 each c mark)

theorem isUpper_of_isLower {c : Char} (lower : isLower c = true) : isUpper c = false := by
  rw [isLower_iff] at lower
  rw [Bool.eq_false_iff, Ne, isUpper_iff]
  omega

theorem lowerChar_of_isUpper {c : Char} (upper : isUpper c = true) : isLower (lowerChar c) = true := by
  rw [lowerChar, if_pos upper]
  rw [isUpper_iff] at upper
  have scalar : c.toNat + 32 < 0xD800 ∨ 0xDFFF < c.toNat + 32 ∧ c.toNat + 32 < 0x110000 := by omega
  rw [isLower_iff, Utf8.toNat_ofNat scalar]
  omega

theorem lowerChar_eq_self {c : Char} (plain : isUpper c = false) : lowerChar c = c := by
  simp [lowerChar, plain]

theorem isUpper_lowerChar (c : Char) : isUpper (lowerChar c) = false := by
  cases upper : isUpper c with
  | false => rwa [lowerChar_eq_self upper]
  | true => exact isUpper_of_isLower (lowerChar_of_isUpper upper)

theorem isTokenChar_lowerChar {c : Char} (token : isTokenChar c = true) : isTokenChar (lowerChar c) = true := by
  cases upper : isUpper c with
  | false => rwa [lowerChar_eq_self upper]
  | true => simp [isTokenChar, isLetter, lowerChar_of_isUpper upper]

theorem isTokenChar_of_lowerChar {c : Char} (token : isTokenChar (lowerChar c) = true) : isTokenChar c = true := by
  cases upper : isUpper c with
  | false => rwa [lowerChar_eq_self upper] at token
  | true => simp [isTokenChar, isLetter, upper]

theorem lower_lower (text : List Char) : lower (lower text) = lower text := by
  simp [lower, lowerChar_eq_self, isUpper_lowerChar]

/-! Bytes. -/

theorem latin1_byte {c : Char} (ascii : c.toNat < 0x80) : latin1 (Utf8.byte c.toNat) = c := by
  rw [latin1, Utf8.toNat_byte (by omega), Char.ofNat_toNat]

theorem byte_inj {c d : Char} (first : c.toNat < 0x80) (second : d.toNat < 0x80) :
    Utf8.byte c.toNat = Utf8.byte d.toNat ↔ c = d := by
  constructor
  · intro same
    rw [← latin1_byte first, same, latin1_byte second]
  · rintro rfl
    rfl

end Ascii

namespace Utf8

variable {c : Char} {text : List Char}

theorem encode_append (first second : List Char) : encode (first ++ second) = encode first ++ encode second := by
  rw [encode, List.flatMap_append, encode, encode]

theorem encodeChar_of_ascii (ascii : c.toNat < 0x80) : encodeChar c = [byte c.toNat] := by
  simp [encodeChar, ascii]

theorem encode_cons_of_ascii (ascii : c.toNat < 0x80) (rest : List Char) :
    encode (c :: rest) = byte c.toNat :: encode rest := by
  rw [encode, List.flatMap_cons, encodeChar_of_ascii ascii, encode, List.singleton_append]

theorem byte_mem_encode (member : c ∈ text) (ascii : c.toNat < 0x80) : byte c.toNat ∈ encode text := by
  refine List.mem_flatMap.2 ⟨c, member, ?_⟩
  simp [encodeChar_of_ascii ascii]

/-- A character outside ASCII has no byte inside ASCII. -/
theorem le_of_mem_encodeChar {b : UInt8} (beyond : 0x80 ≤ c.toNat) (member : b ∈ encodeChar c) : 0x80 ≤ b.toNat := by
  have scalar := toNat_scalar c
  have more : ¬ c.toNat < 0x80 := by omega
  -- of two, three or four bytes each is at least 0x80
  simp only [encodeChar, more, if_false] at member
  split at member
  · simp only [List.mem_cons, List.not_mem_nil, or_false] at member
    rcases member with rfl | rfl <;> rw [toNat_byte (by omega)] <;> omega
  · split at member
    · simp only [List.mem_cons, List.not_mem_nil, or_false] at member
      rcases member with rfl | rfl | rfl <;> rw [toNat_byte (by omega)] <;> omega
    · simp only [List.mem_cons, List.not_mem_nil, or_false] at member
      rcases member with rfl | rfl | rfl | rfl <;> rw [toNat_byte (by omega)] <;> omega

theorem encodeChar_ne_nil (c : Char) : encodeChar c ≠ [] := by
  simp only [encodeChar]
  split_ifs <;> exact List.cons_ne_nil _ _

/-- Text of ASCII bytes alone is ASCII text, and its characters are its bytes. -/
theorem byte_of_encode {rule : UInt8 → Bool} (narrow : ∀ b, rule b = true → b.toNat < 0x80)
    (kept : ∀ b ∈ encode text, rule b = true) (member : c ∈ text) :
    c.toNat < 0x80 ∧ rule (byte c.toNat) = true := by
  have ascii : c.toNat < 0x80 := by
    by_contra beyond
    obtain ⟨b, inside⟩ := List.exists_mem_of_ne_nil _ (encodeChar_ne_nil c)
    have large := le_of_mem_encodeChar (Nat.le_of_not_lt beyond) inside
    have small := narrow b (kept b (List.mem_flatMap.2 ⟨c, member, inside⟩))
    omega
  exact ⟨ascii, kept _ (byte_mem_encode member ascii)⟩

end Utf8

end Sluice
