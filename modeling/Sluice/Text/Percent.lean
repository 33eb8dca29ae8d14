import Sluice.Text.Ascii
import Sluice.Text.Utf8

/-! Percent escapes in URIs: decoding replaces each escape of two hexadecimal digits by its byte and leaves
everything else, a lone percent sign included. -/

set_option autoImplicit false

namespace Sluice.Percent

def escape? (high low : UInt8) : Option UInt8 := do
  let h ← Ascii.hexValue? (Ascii.latin1 high)
  let l ← Ascii.hexValue? (Ascii.latin1 low)
  return Utf8.byte (16 * h + l)

def decode : Bytes → Bytes
  | [] => []
  | a :: b :: c :: rest =>
    if a == 0x25 then
      match escape? b c with
      | some byte => byte :: decode rest
      | none => a :: decode (b :: c :: rest)
    else a :: decode (b :: c :: rest)
  | a :: rest => a :: decode rest

end Sluice.Percent
