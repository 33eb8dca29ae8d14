import Sluice.Decimal.Numeral

/-! Internet addresses, with and without a port, and their texts. -/

set_option autoImplicit false

namespace Sluice

inductive IpAddress where
  | v4 (octets : List Nat)
  | v6 (groups : List Nat)
  deriving DecidableEq, Repr

namespace IpAddress

/-- A number of at most some digits of a base and not above a bound. -/
def number? (isDigit : Char → Bool) (value : List Char → Nat) (digits bound : Nat) (zeroPrefix : Bool)
    (text : List Char) : Option (Nat × List Char) :=
  let front := text.takeWhile isDigit
  let n := value front
  if front.isEmpty || digits < front.length || bound < n then none
  else if !zeroPrefix && 1 < front.length && front.head? == some '0' then none
  else some (n, text.dropWhile isDigit)

def octet? (text : List Char) : Option (Nat × List Char) :=
  number? Ascii.isDigit Decimal.natOfDigits 3 255 false text

/-- Four octets between points. -/
def v4Octets? (text : List Char) : Option (List Nat × List Char) := do
  let (a, rest) ← octet? text
  let '.' :: rest := rest | none
  let (b, rest) ← octet? rest
  let '.' :: rest := rest | none
  let (c, rest) ← octet? rest
  let '.' :: rest := rest | none
  let (d, rest) ← octet? rest
  return ([a, b, c, d], rest)

def group? (text : List Char) : Option (Nat × List Char) :=
  number? Ascii.isHexDigit Decimal.natOfHexDigits 4 65535 true text

/-- What stands after the separator that every group but the first needs. -/
def afterColon? (first : Bool) (text : List Char) : Option (List Char) :=
  if first then some text
  else match text with
    | ':' :: rest => some rest
    | _ => none

/-- Reads up to a number of groups; the last two may be written as four octets. The flag tells whether they
were. -/
def groups? (first : Bool) : Nat → List Char → List Nat × Bool × List Char
  | 0, text => ([], false, text)
  | limit + 1, text =>
    match afterColon? first text with
    | none => ([], false, text)
    | some body =>
      let embedded := if limit = 0 then none else v4Octets? body
      match embedded with
      | some ([a, b, c, d], rest) => ([a * 256 + b, c * 256 + d], true, rest)
      | _ =>
        match group? body with
        | none => ([], false, text)
        | some (g, rest) =>
          let (gs, octets, rest) := groups? false limit rest
          (g :: gs, octets, rest)

/-- Eight groups, or fewer around one double colon that stands for at least one zero group. -/
def v6Groups? (text : List Char) : Option (List Nat × List Char) :=
  let (front, octets, rest) := groups? true 8 text
  if front.length = 8 then some (front, rest)
  else if octets then none
  else match rest with
    | ':' :: ':' :: rest =>
      let (back, _, rest) := groups? true (7 - front.length) rest
      some (front ++ List.replicate (8 - front.length - back.length) 0 ++ back, rest)
    | _ => none

def ofChars? (text : List Char) : Option IpAddress :=
  match v4Octets? text with
  | some (octets, []) => some (.v4 octets)
  | _ => match v6Groups? text with
    | some (groups, []) => some (.v6 groups)
    | _ => none

def ofText? (text : String) : Option IpAddress := ofChars? text.toList

def v4Text (octets : List Nat) : String := ".".intercalate (octets.map toString)

def hexGroup (n : Nat) : String := String.ofList (Nat.toDigits 16 n)

def groupsText (groups : List Nat) : String := ":".intercalate (groups.map hexGroup)

def zeroRun (groups : List Nat) : Nat := (groups.takeWhile (· == 0)).length

/-- The start and length of the first longest run of zeros. -/
def longestZeroRun : Nat → List Nat → Nat × Nat
  | _, [] => (0, 0)
  | start, g :: rest =>
    let here := zeroRun (g :: rest)
    let (later, length) := longestZeroRun (start + 1) rest
    if length ≤ here then (start, here) else (later, length)

def v6Text (groups : List Nat) : String :=
  match groups with
  | [0, 0, 0, 0, 0, 0xFFFF, a, b] =>
    "::ffff:" ++ v4Text [a / 256, a % 256, b / 256, b % 256]
  | _ =>
    let (start, length) := longestZeroRun 0 groups
    if 1 < length then
      groupsText (groups.take start) ++ "::" ++ groupsText (groups.drop (start + length))
    else groupsText groups

def text : IpAddress → String
  | .v4 octets => v4Text octets
  | .v6 groups => v6Text groups

def unspecified : IpAddress := .v4 [0, 0, 0, 0]

end IpAddress

/-- An address with a port; the scope of a link-local address is kept. -/
structure SocketAddress where
  ip : IpAddress
  scope : Nat
  port : Nat
  deriving DecidableEq, Repr

namespace SocketAddress

def port? (text : List Char) : Option Nat :=
  match text with
  | ':' :: digits =>
    let n := Decimal.natOfDigits digits
    if digits.isEmpty || !digits.all Ascii.isDigit || 65535 < n then none else some n
  | _ => none

def scope? (text : List Char) : Option (Nat × List Char) :=
  match text with
  | '%' :: rest =>
    let digits := rest.takeWhile Ascii.isDigit
    let n := Decimal.natOfDigits digits
    if digits.isEmpty || 4294967295 < n then none else some (n, rest.dropWhile Ascii.isDigit)
  | _ => some (0, text)

def ofChars? (text : List Char) : Option SocketAddress :=
  match text with
  | '[' :: rest => do
    let (groups, rest) ← IpAddress.v6Groups? rest
    let (scope, rest) ← scope? rest
    let ']' :: rest := rest | none
    let port ← port? rest
    return ⟨.v6 groups, scope, port⟩
  | _ => do
    let (octets, rest) ← IpAddress.v4Octets? text
    let port ← port? rest
    return ⟨.v4 octets, 0, port⟩

def ofText? (text : String) : Option SocketAddress := ofChars? text.toList

def text (address : SocketAddress) : String :=
  match address.ip with
  | .v4 octets => IpAddress.v4Text octets ++ ":" ++ toString address.port
  | .v6 groups =>
    "[" ++ IpAddress.v6Text groups ++
      (if address.scope = 0 then "" else "%" ++ toString address.scope) ++ "]:" ++ toString address.port

end SocketAddress

end Sluice
