import Sluice.Text.Ascii
import Sluice.Decimal.Shortest

/-! Numerals as texts write them: a sign, digits, a fraction and an exponent. -/

set_option autoImplicit false

namespace Sluice.Decimal

/-- A written number; the fraction and the exponent may be missing. -/
structure Numeral where
  negative : Bool
  whole : List Char
  fraction : Option (List Char)
  exponent : Option Int
  deriving DecidableEq, Repr

def natOfDigits (digits : List Char) : Nat :=
  digits.foldl (fun n c => 10 * n + (c.toNat - 48)) 0

def natOfHexDigits (digits : List Char) : Nat :=
  digits.foldl (fun n c => 16 * n + (Ascii.hexValue? c).getD 0) 0

namespace Numeral

def isInteger (n : Numeral) : Bool := n.fraction.isNone && n.exponent.isNone

def toInt (n : Numeral) : Int :=
  if n.negative then -(natOfDigits n.whole : Int) else natOfDigits n.whole

def toBinary (format : BinaryFormat) (n : Numeral) : Binary :=
  let fraction := n.fraction.getD []
  Binary.ofDecimal format n.negative (natOfDigits (n.whole ++ fraction))
    (n.exponent.getD 0 - fraction.length)

end Numeral

def takeSign : List Char → Bool × List Char
  | '-' :: rest => (true, rest)
  | '+' :: rest => (false, rest)
  | text => (false, text)

/-- The digits of an exponent with an optional sign, read to the end of the text. -/
def exponent? (text : List Char) : Option Int :=
  let (negative, digits) := takeSign text
  if digits.isEmpty || !digits.all Ascii.isDigit then none
  else some (if negative then -(natOfDigits digits : Int) else natOfDigits digits)

/-- A decimal floating numeral: digits on at least one side of the point, then an optional exponent. -/
def numeral? (text : List Char) : Option Numeral := do
  let (negative, text) := takeSign text
  let whole := text.takeWhile Ascii.isDigit
  let rest := text.dropWhile Ascii.isDigit
  let (fraction, rest) := match rest with
    | '.' :: rest => (some (rest.takeWhile Ascii.isDigit), rest.dropWhile Ascii.isDigit)
    | rest => (none, rest)
  if whole.isEmpty && (fraction.getD []).isEmpty then none
  match rest with
  | [] => some ⟨negative, whole, fraction, none⟩
  | c :: rest =>
    if c == 'e' || c == 'E' then
      let exponent ← exponent? rest
      some ⟨negative, whole, fraction, some exponent⟩
    else none

/-- The text of a floating number: a numeral, or a spelling of infinity or nan in any case. -/
def binary? (format : BinaryFormat) (text : List Char) : Option Binary :=
  let (negative, body) := takeSign text
  let word := String.ofList (Ascii.lower body)
  if word == "inf" || word == "infinity" then some (.infinite negative)
  else if word == "nan" then some .nan
  else (numeral? text).map (·.toBinary format)

end Sluice.Decimal
