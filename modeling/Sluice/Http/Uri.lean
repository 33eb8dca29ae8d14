import Sluice.Fault
import Sluice.Text.Ascii

/-! Request targets. A target is a path with an optional query, the asterisk, an authority alone, or an absolute
URI; a fragment is dropped. -/

set_option autoImplicit false

namespace Sluice

/-- The parts of a target; path and query are as written. -/
structure Uri where
  scheme : Option String
  authority : Option String
  path : String
  query : Option String
  deriving DecidableEq, Repr

namespace Uri

/-- Characters that may stand in the path of a target. -/
def isPathChar (c : Char) : Bool :=
  let n := c.toNat
  0x21 ≤ n && n != 0x3C && n != 0x3E && n != 0x60 && n != 0x7F && c != '?' && c != '#'

def isQueryChar (c : Char) : Bool :=
  let n := c.toNat
  0x21 ≤ n && n != 0x22 && n != 0x3C && n != 0x3E && n != 0x7F && c != '#'

/-- Reads a query up to a fragment. -/
def query? (text : List Char) : Except UriFault String :=
  match text.dropWhile isQueryChar with
  | [] | '#' :: _ => .ok (String.ofList (text.takeWhile isQueryChar))
  | _ => .error .invalidCharacter

/-- Reads a path with an optional query, up to a fragment. -/
def pathAndQuery? (text : List Char) : Except UriFault (String × Option String) :=
  let path := String.ofList (text.takeWhile isPathChar)
  match text.dropWhile isPathChar with
  | [] | '#' :: _ => .ok (path, none)
  | '?' :: rest => do
    let query ← query? rest
    return (path, some query)
  | _ => .error .invalidCharacter

/-- Characters of an authority other than the percent sign. -/
def isAuthorityChar (c : Char) : Bool :=
  Ascii.isDigit c || Ascii.isLetter c || "!$&'()*+,-.:;=@[]_~".toList.contains c

def endsAuthority (c : Char) : Bool := c == '/' || c == '?' || c == '#'

/-- What has been seen of an authority since the last user part or bracketed host. -/
structure AuthorityScan where
  colons : Nat
  opened : Bool
  closed : Bool
  percent : Bool
  lastIsAt : Bool

def AuthorityScan.start : AuthorityScan := ⟨0, false, false, false, false⟩

/-- Takes one character of an authority into account. -/
def AuthorityScan.step (scan : AuthorityScan) (c : Char) : Except UriFault AuthorityScan :=
  let scan := { scan with lastIsAt := c == '@' }
  if c == ':' then
    if 8 ≤ scan.colons then .error .invalidAuthority else .ok { scan with colons := scan.colons + 1 }
  else if c == '[' then
    if scan.percent || scan.opened then .error .invalidAuthority else .ok { scan with opened := true }
  else if c == ']' then
    if !scan.opened || scan.closed then .error .invalidAuthority
    else .ok { scan with closed := true, colons := 0, percent := false }
  else if c == '@' then .ok { scan with colons := 0, percent := false }
  else if c == '%' then .ok { scan with percent := true }
  else if isAuthorityChar c then .ok scan
  else .error .invalidCharacter

/-- The authority at the front of a text and the rest. -/
def authority? (text : List Char) : Except UriFault (List Char × List Char) := do
  let front := text.takeWhile (!endsAuthority ·)
  let scan ← front.foldlM AuthorityScan.step AuthorityScan.start
  -- one colon may stand before a port; more of them need brackets around the host
  if scan.opened != scan.closed || 1 < scan.colons || scan.lastIsAt || scan.percent then
    .error .invalidAuthority
  else .ok (front, text.dropWhile (!endsAuthority ·))

def isSchemeChar (c : Char) : Bool :=
  Ascii.isDigit c || Ascii.isLetter c || "+-.~".toList.contains c

/-- The scheme at the front of a text and what follows its two slashes. The two known schemes are recognized in
any case; another one must be at most 64 characters. -/
def scheme? (text : List Char) : Except UriFault (Option String × List Char) :=
  if Ascii.sameText (text.take 7) "http://".toList then .ok (some "http", text.drop 7)
  else if Ascii.sameText (text.take 8) "https://".toList then .ok (some "https", text.drop 8)
  else
    let front := text.takeWhile isSchemeChar
    match text.dropWhile isSchemeChar with
    | ':' :: '/' :: '/' :: rest =>
      if 64 < front.length then .error .schemeTooLong else .ok (some (String.ofList front), rest)
    | _ => .ok (none, text)

def maxLength : Nat := 65534

def byteLength (text : List Char) : Nat := (Utf8.encode text).length

def ofChars? (text : List Char) : Except UriFault Uri :=
  if maxLength < byteLength text then .error .tooLong
  else match text with
  | [] => .error .empty
  | ['*'] => .ok ⟨none, none, "*", none⟩
  | '/' :: _ => do
    let (path, query) ← pathAndQuery? text
    return ⟨none, none, path, query⟩
  -- neither a root nor an asterisk: a single character is a host
  | [c] => do
    let (_, rest) ← authority? [c]
    if rest.isEmpty then .ok ⟨none, some (String.ofList [c]), "", none⟩ else .error .invalidCharacter
  | _ => do
    let (scheme, text) ← scheme? text
    let (authority, rest) ← authority? text
    match scheme with
    | none =>
      if rest.isEmpty then .ok ⟨none, some (String.ofList authority), "", none⟩
      else .error .invalidFormat
    | some scheme =>
      if authority.isEmpty then .error .invalidFormat
      else
        let (path, query) ← pathAndQuery? rest
        return ⟨some scheme, some (String.ofList authority), path, query⟩

def ofText? (text : String) : Except UriFault Uri := ofChars? text.toList

/-- The path a server sees: an absolute URI without one has the root path. -/
def pathText (uri : Uri) : String :=
  if uri.scheme.isSome && uri.path.isEmpty then "/" else uri.path

/-- The target as one text, which a malformed-target report quotes. A query may stand there without a path. -/
def target (uri : Uri) : String :=
  if uri.scheme.isNone && uri.authority.isSome then uri.pathText
  else
    let text := uri.path ++ (match uri.query with
      | some q => "?" ++ q
      | none => "")
    if text.isEmpty then "/" else text

def text (uri : Uri) : String :=
  (match uri.scheme with
    | some s => s ++ "://"
    | none => "") ++ uri.authority.getD "" ++ uri.pathText ++
  (match uri.query with
    | some q => "?" ++ q
    | none => "")

end Uri

end Sluice
