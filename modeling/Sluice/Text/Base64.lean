import Sluice.Text.Utf8

/-! Base64 text. Four symbols stand for three bytes. A shorter last group stands for one or two bytes, and padding may
fill it up. Blanks between symbols do not count. -/

set_option autoImplicit false

namespace Sluice.Base64

def value? (b : UInt8) : Option Nat :=
  let n := b.toNat
  if 65 ≤ n && n ≤ 90 then some (n - 65)
  else if 97 ≤ n && n ≤ 122 then some (n - 71)
  else if 48 ≤ n && n ≤ 57 then some (n + 4)
  else if n == 43 then some 62
  else if n == 47 then some 63
  else none

def isBlank (b : UInt8) : Bool := b.toNat == 32 || (9 ≤ b.toNat && b.toNat ≤ 13)

def isPadding (b : UInt8) : Bool := b.toNat == 61

/-- The bytes of a list of symbols; a single symbol in the last group stands for none. -/
def decodeValues : List Nat → Option Bytes
  | [] => some []
  | [_] => none
  | [a, b] => some [Utf8.byte (a * 4 + b / 16)]
  | [a, b, c] => some [Utf8.byte (a * 4 + b / 16), Utf8.byte (b % 16 * 16 + c / 4)]
  | a :: b :: c :: d :: rest =>
    (decodeValues rest).map fun later =>
      Utf8.byte (a * 4 + b / 16) :: Utf8.byte (b % 16 * 16 + c / 4) :: Utf8.byte (c % 4 * 64 + d) :: later

/-- Reads a text; padding stands at its end, and completes the last group if there is any. -/
def decode? (text : Bytes) : Option Bytes :=
  let symbols := text.filter (!isBlank ·)
  let body := symbols.takeWhile (!isPadding ·)
  let padding := symbols.drop body.length
  if padding.all isPadding && padding.length ≤ 2 && (padding.isEmpty || symbols.length % 4 == 0) then
    (body.mapM value?).bind decodeValues
  else none

end Sluice.Base64
