import Sluice.Http.Status
import Sluice.Json.Value

/-! Everything that can go wrong, its message, the status it is answered with, and whether it says that the
peer can no longer be reached. -/

set_option autoImplicit false

namespace Sluice

inductive Device where
  | brokenPipe | connectionReset | connectionAborted | notConnected | connectionRefused
  | notFound | timedOut | unexpectedEnd | other
  deriving DecidableEq, Repr

def Device.isClosed : Device → Bool
  | .brokenPipe | .connectionReset | .connectionAborted | .notConnected => true
  | _ => false

/-- Why a request target cannot be read as a URI. -/
inductive UriFault where
  | empty | invalidCharacter | invalidFormat | invalidAuthority | tooLong | schemeTooLong
  deriving DecidableEq, Repr

def UriFault.message : UriFault → String
  | .empty => "empty string"
  | .invalidCharacter => "invalid uri character"
  | .invalidFormat => "invalid format"
  | .invalidAuthority => "invalid authority"
  | .tooLong => "uri too long"
  | .schemeTooLong => "scheme too long"

/-- Why a message cannot be built from its parts. -/
inductive PartFault where
  | headerName | headerValue | statusCode | method | uri (cause : UriFault)
  deriving DecidableEq, Repr

def PartFault.message : PartFault → String
  | .headerName => "invalid HTTP header name"
  | .headerValue => "failed to parse header value"
  | .statusCode => "invalid status code"
  | .method => "invalid HTTP method"
  | .uri cause => cause.message

inductive Fault where
  | engine (canceled : Bool)
  | malformedTarget (target reason : String)
  | invalidHeader (detail : String)
  | cookieEncoding (name reason : String)
  | headersCommitted
  | responseComplete
  | connectionClosed
  | status (status : Status)
  | config (detail : String)
  | tls (detail : String)
  | notImplemented (detail : String)
  | unhandledResult (detail : String)
  | runtime (detail : String)
  | device (kind : Device) (detail : String)
  | part (cause : PartFault)
  | serialization (detail : String)
  | internal (detail : String)
  deriving DecidableEq, Repr

namespace Fault

def kind : Fault → String
  | .engine _ => "Http"
  | .malformedTarget .. => "MalformedTarget"
  | .invalidHeader _ => "InvalidHeader"
  | .cookieEncoding .. => "CookieEncoding"
  | .headersCommitted => "HeadersCommitted"
  | .responseComplete => "ResponseComplete"
  | .connectionClosed => "ConnectionClosed"
  | .status _ => "Status"
  | .config _ => "Config"
  | .tls _ => "Tls"
  | .notImplemented _ => "NotImplemented"
  | .unhandledResult _ => "UnhandledResult"
  | .runtime _ => "Runtime"
  | .device .. => "Io"
  | .part _ => "HttpError"
  | .serialization _ => "Serialization"
  | .internal _ => "Internal"

def message : Fault → String
  | .engine _ => "HTTP error"
  | .malformedTarget target reason => "Malformed request target '" ++ target ++ "': " ++ reason
  | .invalidHeader detail => "Invalid header: " ++ detail
  | .cookieEncoding name reason => "Cookie encoding failed for '" ++ name ++ "': " ++ reason
  | .headersCommitted => "Response headers have already been sent"
  | .responseComplete => "Response is already complete"
  | .connectionClosed => "Connection closed"
  | .status s => "HTTP status " ++ toString s.code ++ " " ++ s.reason?.getD "<unknown status code>"
  | .config detail => "Configuration error: " ++ detail
  | .tls detail => "TLS error: " ++ detail
  | .notImplemented detail => "Not implemented: " ++ detail
  | .unhandledResult detail => "No response converter for result: " ++ detail
  | .runtime detail => "Runtime error: " ++ detail
  | .device _ detail => "I/O error: " ++ detail
  | .part cause => "HTTP error: " ++ cause.message
  | .serialization detail => "Serialization error: " ++ detail
  | .internal detail => "Internal error: " ++ detail

def statusCode : Fault → Status
  | .engine _ | .malformedTarget .. | .invalidHeader _ => .badRequest
  | .status s => s
  | .notImplemented _ => .notImplemented
  | _ => .internalServerError

def isClosed : Fault → Bool
  | .connectionClosed => true
  | .engine canceled => canceled
  | .device kind _ => kind.isClosed
  | _ => false

/-- A failure as a report shows it. -/
def report (fault : Fault) : Json :=
  .object [("error", .string fault.kind), ("message", .string fault.message),
    ("status", .nat fault.statusCode.code), ("closed", .bool fault.isClosed)]

end Fault

instance : Inhabited Fault := ⟨.connectionClosed⟩

end Sluice
