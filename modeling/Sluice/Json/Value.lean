import Sluice.Json.Tree
import Sluice.Text.Utf8

/-! JSON values. An integer is kept when it fits 64 bits, signed or unsigned; every other number is a double.
A value prints compactly with the names of every object in ascending order. -/

set_option autoImplicit false

namespace Sluice

inductive Json where
  | null
  | bool (value : Bool)
  | int (value : Int)
  | real (value : Binary)
  | string (text : String)
  | array (items : List Json)
  | object (fields : List (String × Json))
  deriving Inhabited

namespace Json

def nat (n : Nat) : Json := .int n

/-- The doubles 10 ^ 0 to 10 ^ 308. -/
def powerOfTen (n : Nat) : Binary := Binary.round .double false (Nat.pow 10 n) 1

/-- The rounded product of two non-negative doubles. -/
def times : Binary → Binary → Binary
  | .finite _ m e, .finite _ n f =>
    let (a, b) := Binary.quotient m e
    let (c, d) := Binary.quotient n f
    Binary.round .double false (a * c) (b * d)
  | _, _ => .infinite false

/-- The rounded quotient of two positive doubles. -/
def dividedBy : Binary → Binary → Binary
  | .finite _ m e, .finite _ n f =>
    let (a, b) := Binary.quotient m e
    let (c, d) := Binary.quotient n f
    Binary.round .double false (a * d) (b * c)
  | other, _ => other

/-- Scales a double by a power of ten of at most 308 at a time; none beyond the format. -/
def scaleTen? : Nat → Binary → Int → Option Binary
  | 0, _, _ => none
  | fuel + 1, value, exponent =>
    if exponent.natAbs ≤ 308 then
      if 0 ≤ exponent then
        match times value (powerOfTen exponent.toNat) with
        | .finite s m e => some (.finite s m e)
        | _ => none
      else some (dividedBy value (powerOfTen (-exponent).toNat))
    else if value == Binary.zero false then some value
    else if 0 ≤ exponent then none
    else scaleTen? fuel (dividedBy value (powerOfTen 308)) (exponent + 308)

def maxSignificand : Nat := 18446744073709551615

/-- Takes digits while the number they spell fits 64 bits: the number and how many were taken. -/
def takeSignificand (start : Nat) : List Char → Nat × Nat
  | [] => (start, 0)
  | c :: rest =>
    let next := 10 * start + (c.toNat - 48)
    if maxSignificand < next then (start, 0)
    else
      let (n, count) := takeSignificand next rest
      (n, count + 1)

/-- The double of a numeral: its leading digits as far as 64 bits hold them, scaled by a power of ten. -/
def double? (numeral : Decimal.Numeral) : Option Binary := do
  let (whole, taken) := takeSignificand 0 numeral.whole
  let dropped := numeral.whole.length - taken
  let (significand, places) :=
    if dropped = 0 then takeSignificand whole (numeral.fraction.getD []) else (whole, 0)
  let exponent := (dropped : Int) - places + numeral.exponent.getD 0
  let magnitude ←
    if significand = 0 then some (Binary.zero false)
    else if exponent < -5000 then some (Binary.zero false)
    else scaleTen? 20 (Binary.round .double false significand 1) exponent
  return if numeral.negative then magnitude.negate else magnitude

/-- The value of a numeral. Minus zero is a double. -/
def ofNumeral? (numeral : Decimal.Numeral) : Option Json :=
  if numeral.isInteger then
    let n := numeral.toInt
    if numeral.negative then
      if n = 0 then some (.real (Binary.zero true))
      else if -(Int.pow 2 63) ≤ n then some (.int n)
      else (double? numeral).map .real
    else if n ≤ maxSignificand then some (.int n)
    else (double? numeral).map .real
  else (double? numeral).map .real

/-- Sets a field, replacing an earlier one of the same name in place. -/
def setField (name : String) (value : Json) : List (String × Json) → List (String × Json)
  | [] => [(name, value)]
  | (key, old) :: rest => if key = name then (name, value) :: rest else (key, old) :: setField name value rest

mutual

def ofTree? : Tree → Option Json
  | .null => some .null
  | .bool b => some (.bool b)
  | .number numeral => ofNumeral? numeral
  | .string text => text.map .string
  | .array items => (itemsOfTree? items).map .array
  | .object fields => (fieldsOfTree? [] fields).map .object

def itemsOfTree? : List Tree → Option (List Json)
  | [] => some []
  | item :: rest => do
    let value ← ofTree? item
    let values ← itemsOfTree? rest
    return value :: values

def fieldsOfTree? (before : List (String × Json)) :
    List (Option String × Tree) → Option (List (String × Json))
  | [] => some before
  | (name, item) :: rest => do
    let name ← name
    let value ← ofTree? item
    fieldsOfTree? (setField name value before) rest

end

def parse? (text : String) : Option Json := do
  let tree ← Tree.parse? text
  ofTree? tree

def field? (name : String) : Json → Option Json
  | .object fields => (fields.find? (·.1 == name)).map (·.2)
  | _ => none

/-- A character of a JSON string: the short escapes, and other controls by number. -/
def escapeChar (c : Char) : List Char :=
  if c == '"' then ['\\', '"']
  else if c == '\\' then ['\\', '\\']
  else if c == '\n' then ['\\', 'n']
  else if c == '\r' then ['\\', 'r']
  else if c == '\t' then ['\\', 't']
  else if c.toNat == 0x08 then ['\\', 'b']
  else if c.toNat == 0x0C then ['\\', 'f']
  else if c.toNat < 0x20 then
    ['\\', 'u', '0', '0', Bytes.hexDigit (c.toNat / 16), Bytes.hexDigit (c.toNat % 16)]
  else [c]

def quoteText (text : String) : List Char := ['"'] ++ text.toList.flatMap escapeChar ++ ['"']

/-- A double as JSON writes it: a point is kept, positional up to 16 digits before the point and 5 zeros
after it, otherwise with an exponent. No number stands for infinity or nan. -/
def realText : Binary → List Char
  | .finite negative m e =>
    let sign := if negative then ['-'] else []
    let s := Decimal.shortest .double m e
    let ds := Decimal.digitText s.digits
    let point : Int := ds.length + s.exponent
    let body :=
      if m = 0 then ['0', '.', '0']
      else if 0 ≤ s.exponent && point ≤ 16 then Decimal.positional s ++ ['.', '0']
      else if 0 < point && point ≤ 16 then Decimal.positional s
      else if -5 < point && point ≤ 0 then Decimal.positional s
      else
        let power := (toString (point - 1)).toList
        match ds with
        | [d] => [d, 'e'] ++ power
        | d :: rest => [d, '.'] ++ rest ++ ['e'] ++ power
        | [] => []
    sign ++ body
  | _ => "null".toList

/-- Inserts a named item into a list that ascends by name. -/
def place (field : String × List Char) : List (String × List Char) → List (String × List Char)
  | [] => [field]
  | other :: rest => if field.1 < other.1 then field :: other :: rest else other :: place field rest

def commaJoin : List (List Char) → List Char
  | [] => []
  | [piece] => piece
  | piece :: rest => piece ++ [','] ++ commaJoin rest

mutual

def render : Json → List Char
  | .null => "null".toList
  | .bool b => (if b then "true" else "false").toList
  | .int n => (toString n).toList
  | .real x => realText x
  | .string text => quoteText text
  | .array items => ['['] ++ commaJoin (renderItems items) ++ [']']
  | .object fields =>
    ['\x7b'] ++ commaJoin ((renderFields fields).map fun f => quoteText f.1 ++ [':'] ++ f.2) ++ ['\x7d']

def renderItems : List Json → List (List Char)
  | [] => []
  | item :: rest => render item :: renderItems rest

def renderFields : List (String × Json) → List (String × List Char)
  | [] => []
  | (name, item) :: rest => place (name, render item) (renderFields rest)

end

def text (value : Json) : String := String.ofList value.render

end Json

end Sluice
