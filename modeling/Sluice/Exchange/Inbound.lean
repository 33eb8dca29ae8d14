import Sluice.Cookie.Jar
import Sluice.Cookie.Pair
import Sluice.Exchange.Target
import Sluice.Headers
import Sluice.Http.Message
import Sluice.Text.Percent

/-! The request that a handler reads: headers and path are decoded once, cookies and query parameters on demand,
and the body can be taken once. -/

set_option autoImplicit false

namespace Sluice

structure Inbound where
  context : Context
  method : String
  uri : Uri
  version : String
  path : String
  headers : Headers
  body : Body

namespace Inbound

def decodePath (path : String) : String := Bytes.toTextLossy (Percent.decode (Bytes.ofText path))

/-- Adapts a request. A malformed target is refused before anything else is looked at. -/
def ofRequest (context : Context) (request : Request) : Except Fault Inbound :=
  match Target.validate request.uri.target with
  | .error fault => .error fault
  | .ok () => .ok {
      context
      method := request.method
      uri := request.uri
      version := request.version
      path := decodePath request.uri.pathText
      headers := Headers.ofHeaderMap request.headers
      body := request.body }

def query? (request : Inbound) : Option String := request.uri.query

/-- Decodes a name or value of a query: a plus sign is a space, and the bytes must be UTF-8. -/
def decodeComponent? (text : List Char) : Option String :=
  Bytes.toText? (Percent.decode (Utf8.encode (text.map fun c => if c == '+' then ' ' else c)))

/-- Reads one pair of a query; a missing value is empty. -/
def parameter? (pair : List Char) : Option (String × String) := do
  let (name, value) := (Text.splitOnce? '=' pair).getD (pair, [])
  let name ← decodeComponent? name
  let value ← decodeComponent? value
  return (name, value)

def parametersOf (query : String) : List (String × String) :=
  ((Text.splitOn '&' query.toList).filter (!·.isEmpty)).filterMap parameter?

/-- The decoded query parameters in order; a pair that does not decode is left out. -/
def queryParameters (request : Inbound) : List (String × String) :=
  (request.query?.map parametersOf).getD []

def addCookies (map : CookieMap Cookie) (cookies : List Cookie) : CookieMap Cookie :=
  cookies.foldl (fun map cookie => map.add cookie.name cookie) map

def cookies (request : Inbound) : CookieMap Cookie :=
  addCookies CookieMap.empty ((request.headers.getAll "cookie").flatMap Cookie.parse)

/-- Takes the body; what is left has none. -/
def takeBody (request : Inbound) : Chunks × Inbound :=
  (request.body.chunks, { request with body := [] })

def outline (request : Inbound) : Text.Outline :=
  .record "ServerHttpRequest" [
    ("id", .text request.context.requestId),
    ("method", .atom request.method),
    ("uri", .atom request.uri.text),
    ("headers", request.headers.outline)] true

end Inbound

end Sluice
