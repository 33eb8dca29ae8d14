import Sluice.Decimal.Numeral

/-! JSON texts as trees of what is written: numbers are numerals, and a string whose escapes name a lone surrogate
is well formed but denotes no text. Reading is by recursive descent over the characters; every step consumes
at least one, so the number of characters bounds the depth of the descent. -/

set_option autoImplicit false

namespace Sluice.Json

inductive Tree where
  | null
  | bool (value : Bool)
  | number (numeral : Decimal.Numeral)
  | string (text : Option String)
  | array (items : List Tree)
  | object (fields : List (Option String × Tree))
  deriving Inhabited

namespace Tree

def isSpace (c : Char) : Bool := c == ' ' || c == '\t' || c == '\n' || c == '\r'

def skipSpace (text : List Char) : List Char := text.dropWhile isSpace

def hex4? : List Char → Option (Nat × List Char)
  | a :: b :: c :: d :: rest => do
    let a ← Ascii.hexValue? a
    let b ← Ascii.hexValue? b
    let c ← Ascii.hexValue? c
    let d ← Ascii.hexValue? d
    return (((a * 16 + b) * 16 + c) * 16 + d, rest)
  | _ => none

/-- A piece of a string: code units, of which surrogates still stand alone. -/
def escape? : List Char → Option (Nat × List Char)
  | '"' :: rest => some (0x22, rest)
  | '\\' :: rest => some (0x5C, rest)
  | '/' :: rest => some (0x2F, rest)
  | 'b' :: rest => some (0x08, rest)
  | 'f' :: rest => some (0x0C, rest)
  | 'n' :: rest => some (0x0A, rest)
  | 'r' :: rest => some (0x0D, rest)
  | 't' :: rest => some (0x09, rest)
  | 'u' :: rest => hex4? rest
  | _ => none

/-- The units of a string up to its closing quote. -/
def units? : Nat → List Char → Option (List (Nat × Bool) × List Char)
  | 0, _ => none
  | fuel + 1, text =>
    match text with
    | [] => none
    | '"' :: rest => some ([], rest)
    | '\\' :: rest => do
      let (unit, rest) ← escape? rest
      let (units, rest) ← units? fuel rest
      return ((unit, true) :: units, rest)
    | c :: rest =>
      if c.toNat < 0x20 then none
      else do
        let (units, rest) ← units? fuel rest
        return ((c.toNat, false) :: units, rest)

def isHighSurrogate (n : Nat) : Bool := 0xD800 ≤ n && n < 0xDC00

def isLowSurrogate (n : Nat) : Bool := 0xDC00 ≤ n && n < 0xE000

/-- Joins the escaped surrogate pairs; none if one stands alone. -/
def joinUnits : List (Nat × Bool) → Option (List Char)
  | [] => some []
  | [(a, _)] =>
    if isHighSurrogate a || isLowSurrogate a then none else some [Char.ofNat a]
  | (a, _) :: (b, escaped) :: rest =>
    if isHighSurrogate a then
      if escaped && isLowSurrogate b then
        (joinUnits rest).map (Char.ofNat (0x10000 + (a - 0xD800) * 0x400 + (b - 0xDC00)) :: ·)
      else none
    else if isLowSurrogate a then none
    else (joinUnits ((b, escaped) :: rest)).map (Char.ofNat a :: ·)

/-- A string after its opening quote. -/
def string? (text : List Char) : Option (Option String × List Char) := do
  let (units, rest) ← units? (text.length + 1) text
  return ((joinUnits units).map String.ofList, rest)

/-- A number: no leading zeros, digits on both sides of a point, digits in an exponent. -/
def number? (text : List Char) : Option (Decimal.Numeral × List Char) := do
  let (negative, text) := match text with
    | '-' :: rest => (true, rest)
    | text => (false, text)
  let whole := text.takeWhile Ascii.isDigit
  let rest := text.dropWhile Ascii.isDigit
  if whole.isEmpty || (whole.length > 1 && whole.head? == some '0') then none
  let (fraction, rest) ← match rest with
    | '.' :: rest =>
      let digits := rest.takeWhile Ascii.isDigit
      if digits.isEmpty then none else some (some digits, rest.dropWhile Ascii.isDigit)
    | rest => some (none, rest)
  match rest with
  | c :: tail =>
    if c == 'e' || c == 'E' then
      let (below, tail) := Decimal.takeSign tail
      let digits := tail.takeWhile Ascii.isDigit
      if digits.isEmpty then none
      else
        let n : Int := Decimal.natOfDigits digits
        some (⟨negative, whole, fraction, some (if below then -n else n)⟩, tail.dropWhile Ascii.isDigit)
    else some (⟨negative, whole, fraction, none⟩, rest)
  | [] => some (⟨negative, whole, fraction, none⟩, rest)

mutual

def value? : Nat → List Char → Option (Tree × List Char)
  | 0, _ => none
  | fuel + 1, text =>
    match skipSpace text with
    | 'n' :: 'u' :: 'l' :: 'l' :: rest => some (.null, rest)
    | 't' :: 'r' :: 'u' :: 'e' :: rest => some (.bool true, rest)
    | 'f' :: 'a' :: 'l' :: 's' :: 'e' :: rest => some (.bool false, rest)
    | '"' :: rest => do
      let (text, rest) ← string? rest
      return (.string text, rest)
    | '[' :: rest =>
      match skipSpace rest with
      | ']' :: rest => some (.array [], rest)
      | rest => do
        let (items, rest) ← items? fuel rest
        return (.array items, rest)
    | '\x7b' :: rest =>
      match skipSpace rest with
      | '}' :: rest => some (.object [], rest)
      | rest => do
        let (fields, rest) ← fields? fuel rest
        return (.object fields, rest)
    | rest => do
      let (numeral, rest) ← number? rest
      return (.number numeral, rest)

def items? : Nat → List Char → Option (List Tree × List Char)
  | 0, _ => none
  | fuel + 1, text => do
    let (item, rest) ← value? fuel text
    match skipSpace rest with
    | ',' :: rest =>
      let (items, rest) ← items? fuel rest
      return (item :: items, rest)
    | ']' :: rest => return ([item], rest)
    | _ => none

def fields? : Nat → List Char → Option (List (Option String × Tree) × List Char)
  | 0, _ => none
  | fuel + 1, text =>
    match skipSpace text with
    | '"' :: rest => do
      let (name, rest) ← string? rest
      match skipSpace rest with
      | ':' :: rest =>
        let (item, rest) ← value? fuel rest
        match skipSpace rest with
        | ',' :: rest =>
          let (fields, rest) ← fields? fuel rest
          return ((name, item) :: fields, rest)
        | '}' :: rest => return ([(name, item)], rest)
        | _ => none
      | _ => none
    | _ => none

end

/-- Reads one value that fills the text. -/
def parse? (text : String) : Option Tree := do
  let chars := text.toList
  let (value, rest) ← value? (chars.length + 1) chars
  if (skipSpace rest).isEmpty then some value else none

end Tree

end Sluice.Json
