/-! Binary floating numbers as exact values: a finite one is a whole number of units, each a power of two.
Rounding takes a quotient of natural numbers to the nearest value of a format, a tie to the even neighbour. -/

set_option autoImplicit false

namespace Sluice

/-- The widths of a format: bits of the mantissa, the least and the greatest exponent of the unit. -/
structure BinaryFormat where
  precision : Nat
  least : Int
  greatest : Int
  deriving DecidableEq, Repr

namespace BinaryFormat

def single : BinaryFormat := ⟨24, -149, 104⟩

def double : BinaryFormat := ⟨53, -1074, 971⟩

end BinaryFormat

inductive Binary where
  | nan
  | infinite (negative : Bool)
  | finite (negative : Bool) (mantissa : Nat) (exponent : Int)
  deriving DecidableEq, Repr

namespace Binary

def zero (negative : Bool) : Binary := .finite negative 0 0

def one : Binary := .finite false 1 0

def scale (num den : Nat) (exponent : Int) : Nat × Nat :=
  if 0 ≤ exponent then (num, den * Nat.pow 2 exponent.toNat) else (num * Nat.pow 2 (-exponent).toNat, den)

/-- The nearest whole number of a quotient, a tie to the even neighbour. -/
def roundQuotient (num den : Nat) : Nat :=
  let q := num / den
  let r := num % den
  if den < 2 * r || (2 * r == den && q % 2 == 1) then q + 1 else q

/-- The value of the format nearest to num / den. -/
def round (format : BinaryFormat) (negative : Bool) (num den : Nat) : Binary :=
  if num = 0 then zero negative
  else
    let guess : Int := (Nat.log2 num : Int) - Nat.log2 den - format.precision
    let start := max format.least guess
    let (n, d) := scale num den start
    let exponent := if Nat.pow 2 format.precision ≤ n / d then start + 1 else start
    let (n, d) := scale num den exponent
    let m := roundQuotient n d
    let (m, exponent) := if m = Nat.pow 2 format.precision then (m / 2, exponent + 1) else (m, exponent)
    if format.greatest < exponent then .infinite negative
    else if m = 0 then zero negative
    else .finite negative m exponent

def quotient (mantissa : Nat) (exponent : Int) : Nat × Nat :=
  if 0 ≤ exponent then (mantissa * Nat.pow 2 exponent.toNat, 1) else (mantissa, Nat.pow 2 (-exponent).toNat)

def convert (format : BinaryFormat) : Binary → Binary
  | .finite negative m e =>
    let (num, den) := quotient m e
    round format negative num den
  | other => other

/-- digits · 10 ^ exponent. Exponents beyond every format are cut before the powers are formed. -/
def ofDecimal (format : BinaryFormat) (negative : Bool) (digits : Nat) (exponent : Int) : Binary :=
  if digits = 0 then zero negative
  else if 5000 < exponent then .infinite negative
  else if exponent < -(5000 + (Nat.log2 digits : Int)) then zero negative
  else if 0 ≤ exponent then round format negative (digits * Nat.pow 10 exponent.toNat) 1
  else round format negative digits (Nat.pow 10 (-exponent).toNat)

def negate : Binary → Binary
  | .nan => .nan
  | .infinite negative => .infinite (!negative)
  | .finite negative m e => .finite (!negative) m e

/-- Whether a ≤ b; a comparison with nan is false. -/
def le : Binary → Binary → Bool
  | .nan, _ => false
  | _, .nan => false
  | .infinite true, _ => true
  | _, .infinite false => true
  | .infinite false, _ => false
  | _, .infinite true => false
  | .finite s m e, .finite t n f =>
    let (a, b) := quotient m e
    let (c, d) := quotient n f
    match s && m != 0, t && n != 0 with
    | false, false => a * d ≤ c * b
    | true, true => c * b ≤ a * d
    | true, false => true
    | false, true => false

/-- Whether a < b. -/
def lt (a b : Binary) : Bool := le a b && !le b a

end Binary

end Sluice
