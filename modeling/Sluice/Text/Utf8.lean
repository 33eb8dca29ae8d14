/-! Byte strings and their reading as UTF-8 text. A byte string is read part by part: a part is either one
character or a maximal run of bytes that begins a character and is cut short, and every byte belongs to
exactly one part. -/

set_option autoImplicit false

namespace Sluice

abbrev Bytes := List UInt8

namespace Utf8

def byte (n : Nat) : UInt8 := UInt8.ofNat n

/-- The one to four bytes of a character. -/
def encodeChar (c : Char) : Bytes :=
  let n := c.toNat
  if n < 0x80 then [byte n]
  else if n < 0x800 then [byte (0xC0 + n / 0x40), byte (0x80 + n % 0x40)]
  else if n < 0x10000 then
    [byte (0xE0 + n / 0x1000), byte (0x80 + n / 0x40 % 0x40), byte (0x80 + n % 0x40)]
  else
    [byte (0xF0 + n / 0x40000), byte (0x80 + n / 0x1000 % 0x40), byte (0x80 + n / 0x40 % 0x40),
      byte (0x80 + n % 0x40)]

def encode (text : List Char) : Bytes := text.flatMap encodeChar

/-- A character under way: how many bytes are still due, the range of the next one, the value so far. -/
structure Partial where
  due : Nat
  low : Nat
  high : Nat
  value : Nat

/-- What a first byte begins. The ranges of the second byte leave out overlong forms, surrogates and
values above 0x10FFFF. -/
inductive Lead where
  | whole (c : Char)
  | start (part : Partial)
  | stray

def lead (b : UInt8) : Lead :=
  let n := b.toNat
  if n < 0x80 then .whole (Char.ofNat n)
  else if n < 0xC2 then .stray
  else if n < 0xE0 then .start ⟨1, 0x80, 0xBF, n - 0xC0⟩
  else if n = 0xE0 then .start ⟨2, 0xA0, 0xBF, 0⟩
  else if n = 0xED then .start ⟨2, 0x80, 0x9F, 0xD⟩
  else if n < 0xF0 then .start ⟨2, 0x80, 0xBF, n - 0xE0⟩
  else if n = 0xF0 then .start ⟨3, 0x90, 0xBF, 0⟩
  else if n < 0xF4 then .start ⟨3, 0x80, 0xBF, n - 0xF0⟩
  else if n = 0xF4 then .start ⟨3, 0x80, 0x8F, 4⟩
  else .stray

def Partial.accepts (part : Partial) (b : UInt8) : Bool :=
  part.low ≤ b.toNat && b.toNat ≤ part.high

/-- The value of a partial character with one more continuation byte. -/
def Partial.extend (part : Partial) (b : UInt8) : Nat := part.value * 0x40 + (b.toNat - 0x80)

/-- Reads a byte string, with a character possibly under way; none stands for an invalid part. -/
def decodeFrom : Option Partial → Bytes → List (Option Char)
  | none, [] => []
  | some _, [] => [none]
  | none, b :: rest =>
    match lead b with
    | .whole c => some c :: decodeFrom none rest
    | .start part => decodeFrom (some part) rest
    | .stray => none :: decodeFrom none rest
  | some part, b :: rest =>
    if part.accepts b then
      if part.due ≤ 1 then some (Char.ofNat (part.extend b)) :: decodeFrom none rest
      else decodeFrom (some ⟨part.due - 1, 0x80, 0xBF, part.extend b⟩) rest
    else none :: match lead b with
      | .whole c => some c :: decodeFrom none rest
      | .start next => decodeFrom (some next) rest
      | .stray => none :: decodeFrom none rest

def decode (bytes : Bytes) : List (Option Char) := decodeFrom none bytes

def replacement : Char := Char.ofNat 0xFFFD

/-- Every invalid part becomes one replacement character. -/
def decodeLossy (bytes : Bytes) : List Char := (decode bytes).map (·.getD replacement)

def decode? (bytes : Bytes) : Option (List Char) := (decode bytes).mapM id

end Utf8

namespace Bytes

def ofText (text : String) : Bytes := Utf8.encode text.toList

def toText? (bytes : Bytes) : Option String := (Utf8.decode? bytes).map String.ofList

def toTextLossy (bytes : Bytes) : String := String.ofList (Utf8.decodeLossy bytes)

def hexDigit (n : Nat) : Char := (Nat.toDigits 16 n).headD '0'

def toHex (bytes : Bytes) : String :=
  String.ofList (bytes.flatMap fun b => [hexDigit (b.toNat / 16), hexDigit (b.toNat % 16)])

end Bytes

end Sluice
