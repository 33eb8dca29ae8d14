import Sluice.Calendar
import Sluice.Cookie.Pair
import Sluice.Fault
import Sluice.Text.Quoted

/-! Cookies of a response. Encoding is strict: the name is a token, the value consists of cookie octets and may
stand between double quotes, and no attribute holds a semicolon or a control. -/

set_option autoImplicit false

namespace Sluice

inductive Lifetime where
  | session
  | seconds (count : Nat)
  deriving DecidableEq, Repr

structure SetCookie where
  name : String
  value : String
  domain : Option String
  path : Option String
  lifetime : Lifetime
  httpOnly : Bool
  secure : Bool
  deriving DecidableEq, Repr

namespace SetCookie

def isCookieOctet (b : UInt8) : Bool :=
  let n := b.toNat
  n == 0x21 || (0x23 ≤ n && n ≤ 0x2B) || (0x2D ≤ n && n ≤ 0x3A) || (0x3C ≤ n && n ≤ 0x5B) ||
    (0x5D ≤ n && n ≤ 0x7E)

def isTokenByte (b : UInt8) : Bool := Ascii.isTokenChar (Ascii.latin1 b)

def isAttributeByte (b : UInt8) : Bool := b != 0x3B && !Ascii.isControl (Ascii.latin1 b)

/-- The parts of a cookie that are checked, in the order of checking. -/
inductive Part where
  | name | value | path | domain
  deriving DecidableEq, Repr

def Part.text : Part → String
  | .name => "name"
  | .value => "value"
  | .path => "Path"
  | .domain => "Domain"

inductive Defect where
  | emptyName
  | illegal (byte : UInt8) (part : Part)
  deriving DecidableEq, Repr

def Defect.reason : Defect → String
  | .emptyName => "empty cookie name"
  | .illegal byte part =>
    "illegal character " ++ Text.quoteChar (Ascii.latin1 byte) ++ " in " ++ part.text

/-- The first byte of a part that breaks its rule. -/
def checkPart (part : Part) (rule : UInt8 → Bool) (text : List Char) : Except Defect Unit :=
  match (Utf8.encode text).find? (!rule ·) with
  | some byte => .error (.illegal byte part)
  | none => .ok ()

def checkAttribute (part : Part) : Option String → Except Defect Unit
  | none => .ok ()
  | some text => checkPart part isAttributeByte text.toList

def check (cookie : SetCookie) : Except Defect Unit := do
  if cookie.name.toList.isEmpty then .error .emptyName
  checkPart .name isTokenByte cookie.name.toList
  checkPart .value isCookieOctet (Cookie.stripQuotes cookie.value.toList)
  checkAttribute .path cookie.path
  checkAttribute .domain cookie.domain

def pair (cookie : SetCookie) : String := cookie.name ++ "=" ++ cookie.value

/-- The lifetime: its length, and the date of its end if the calendar represents that. -/
def lifetimeAttributes (now : Instant) : Lifetime → List String
  | .session => []
  | .seconds count =>
    ("Max-Age=" ++ toString count) ::
      (match Calendar.later? now count with
        | some instant => ["Expires=" ++ Calendar.httpDate instant]
        | none => [])

def segments (now : Instant) (cookie : SetCookie) : List String :=
  cookie.pair :: lifetimeAttributes now cookie.lifetime ++
    (cookie.path.map ("Path=" ++ ·)).toList ++ (cookie.domain.map ("Domain=" ++ ·)).toList ++
    (if cookie.secure then ["Secure"] else []) ++ (if cookie.httpOnly then ["HttpOnly"] else [])

def encode (now : Instant) (cookie : SetCookie) : Except Fault String :=
  match cookie.check with
  | .error defect => .error (.cookieEncoding cookie.name defect.reason)
  | .ok () => .ok (String.intercalate "; " (cookie.segments now))

end SetCookie

end Sluice
