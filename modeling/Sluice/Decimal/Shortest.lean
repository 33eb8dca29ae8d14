import Sluice.Decimal.Binary

/-! The shortest decimal of a binary number: the fewest digits that read back as the number, and of those the
nearest to it. For a given count of digits the decimals of that count form a grid, and if a grid has a point in
the interval of reals that round to the number, then a neighbour of the number on that grid is one. -/

set_option autoImplicit false

namespace Sluice.Decimal

/-- A decimal value: digits · 10 ^ exponent. -/
structure Scientific where
  digits : Nat
  exponent : Int
  deriving DecidableEq, Repr

def Scientific.quotient (s : Scientific) : Nat × Nat :=
  if 0 ≤ s.exponent then (s.digits * Nat.pow 10 s.exponent.toNat, 1)
  else (s.digits, Nat.pow 10 (-s.exponent).toNat)

def ltQuotient (a b : Nat × Nat) : Bool := a.1 * b.2 < b.1 * a.2

/-- The interval of reals that round to m · 2 ^ e: its ends, and whether they belong to it. -/
def roundingInterval (format : BinaryFormat) (m : Nat) (e : Int) : (Nat × Nat) × (Nat × Nat) × Bool :=
  -- below a power of two the numbers lie twice as close as above it
  let atBinade := m == Nat.pow 2 (format.precision - 1) && format.least < e
  let low := if atBinade then 4 * m - 1 else 4 * m - 2
  (Binary.quotient low (e - 2), Binary.quotient (4 * m + 2) (e - 2), m % 2 == 0)

def reads (interval : (Nat × Nat) × (Nat × Nat) × Bool) (x : Nat × Nat) : Bool :=
  let (low, high, closed) := interval
  if closed then !ltQuotient x low && !ltQuotient high x else ltQuotient low x && ltQuotient x high

/-- The exponent of the leading decimal digit of a positive quotient. -/
def leadingExponent (num den : Nat) : Int :=
  if den ≤ num then ((Nat.toDigits 10 (num / den)).length : Int) - 1
  else
    let count := (Nat.toDigits 10 (den / num)).length
    -- a power of ten itself is one place higher than what lies below it
    if num * Nat.pow 10 (count - 1) = den then -((count : Int) - 1) else -(count : Int)

/-- The distance of a decimal from a quotient, as a quotient. -/
def distance (a b : Nat × Nat) : Nat × Nat :=
  let x := a.1 * b.2
  let y := b.1 * a.2
  (if x ≤ y then y - x else x - y, a.2 * b.2)

/-- The better of the two neighbours of a quotient among decimals of a given exponent. -/
def onGrid? (interval : (Nat × Nat) × (Nat × Nat) × Bool) (value : Nat × Nat) (exponent : Int) :
    Option Scientific :=
  let below :=
    if 0 ≤ exponent then value.1 / (value.2 * Nat.pow 10 exponent.toNat)
    else value.1 * Nat.pow 10 (-exponent).toNat / value.2
  let a : Scientific := ⟨below, exponent⟩
  let b : Scientific := ⟨below + 1, exponent⟩
  match reads interval a.quotient, reads interval b.quotient with
  | true, true =>
    let da := distance a.quotient value
    let db := distance b.quotient value
    -- of two that are equally near the even one is taken
    if ltQuotient db da || (!ltQuotient da db && below % 2 == 1) then some b else some a
  | true, false => some a
  | false, true => some b
  | false, false => none

/-- Tries the grids of one digit, two digits and so on. -/
def searchGrids (interval : (Nat × Nat) × (Nat × Nat) × Bool) (value : Nat × Nat) :
    Nat → Int → Option Scientific
  | 0, _ => none
  | fuel + 1, exponent =>
    match onGrid? interval value exponent with
    | some found => some found
    | none => searchGrids interval value fuel (exponent - 1)

def trimZeros : Nat → Scientific → Scientific
  | 0, s => s
  | fuel + 1, s =>
    if s.digits != 0 && s.digits % 10 == 0 then trimZeros fuel ⟨s.digits / 10, s.exponent + 1⟩ else s

def shortest (format : BinaryFormat) (m : Nat) (e : Int) : Scientific :=
  if m = 0 then ⟨0, 0⟩
  else
    let value := Binary.quotient m e
    let found := searchGrids (roundingInterval format m e) value 17 (leadingExponent value.1 value.2)
    trimZeros 20 (found.getD ⟨0, 0⟩)

def digitText (n : Nat) : List Char := Nat.toDigits 10 n

def positional (s : Scientific) : List Char :=
  let ds := digitText s.digits
  if 0 ≤ s.exponent then ds ++ List.replicate s.exponent.toNat '0'
  else
    let places := (-s.exponent).toNat
    if places < ds.length then ds.take (ds.length - places) ++ ['.'] ++ ds.drop (ds.length - places)
    else ['0', '.'] ++ List.replicate (places - ds.length) '0' ++ ds

end Sluice.Decimal

namespace Sluice.Binary

/-- The plain text of a number: positional, no exponent, no fraction when it is whole. -/
def plainText (format : BinaryFormat) : Binary → String
  | .nan => "NaN"
  | .infinite negative => if negative then "-inf" else "inf"
  | .finite negative m e =>
    let body := String.ofList (Decimal.positional (Decimal.shortest format m e))
    if negative then "-" ++ body else body

/-- One digit before the point, the others after it, and a power of ten. -/
def scientificText (s : Decimal.Scientific) : List Char :=
  let digits := Decimal.digitText s.digits
  let fraction := digits.drop 1
  let power : Int := digits.length + s.exponent - 1
  digits.take 1 ++ (if fraction.isEmpty then [] else '.' :: fraction) ++ ['e'] ++ (toString power).toList

/-- The text of a number in outlines: at least one place, and an exponent from 10 ^ 16 on and below 10 ^ -4. -/
def outlineText (format : BinaryFormat) : Binary → String
  | .nan => "NaN"
  | .infinite negative => if negative then "-inf" else "inf"
  | .finite negative m e =>
    let s := Decimal.shortest format m e
    let point : Int := (Decimal.digitText s.digits).length + s.exponent
    let body :=
      if m != 0 && (16 < point || point < -3) then scientificText s
      else if 0 ≤ s.exponent then Decimal.positional s ++ ['.', '0']
      else Decimal.positional s
    String.ofList (if negative then '-' :: body else body)

end Sluice.Binary

