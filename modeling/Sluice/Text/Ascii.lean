/-! Character classes over ASCII and the comparison that ignores ASCII case. Characters outside ASCII are in
no class and have no other case. -/

set_option autoImplicit false

namespace Sluice.Ascii

def isDigit (c : Char) : Bool := '0' ≤ c && c ≤ '9'

def isUpper (c : Char) : Bool := 'A' ≤ c && c ≤ 'Z'

def isLower (c : Char) : Bool := 'a' ≤ c && c ≤ 'z'

def isLetter (c : Char) : Bool := isUpper c || isLower c

def isControl (c : Char) : Bool := c.toNat < 0x20 || c.toNat == 0x7F

def hexValue? (c : Char) : Option Nat :=
  if isDigit c then some (c.toNat - 48)
  else if 'a' ≤ c && c ≤ 'f' then some (c.toNat - 87)
  else if 'A' ≤ c && c ≤ 'F' then some (c.toNat - 55)
  else none

def isHexDigit (c : Char) : Bool := (hexValue? c).isSome

/-- The token characters of RFC 7230. -/
def isTokenChar (c : Char) : Bool :=
  isDigit c || isLetter c || "!#$%&'*+-.^_`|~".toList.contains c

def lowerChar (c : Char) : Char := if isUpper c then Char.ofNat (c.toNat + 32) else c

def lower (text : List Char) : List Char := text.map lowerChar

/-- Equality up to the case of ASCII letters. -/
def sameText (a b : List Char) : Bool := lower a == lower b

/-- A byte read as the character of the same number. -/
def latin1 (b : UInt8) : Char := Char.ofNat b.toNat

end Sluice.Ascii
