import Sluice.Chain.Tracing
import Sluice.Exchange.Relay
import Sluice.Exchange.Scripted
import Sluice.Json.Access
import Sluice.Log
import Sluice.Rendering.Subscription
import Sluice.Server.Factory

/-! Reports of what happens in a scenario, as JSON. Bytes are reported as text where they are text. The date of a cookie
depends on the clock and is masked. -/

set_option autoImplicit false

namespace Sluice.Scenario

def orderName : Relay.Order → String
  | .head .. | .call (.head _) => "write_headers"
  | .call (.data _) => "write_data"
  | .call .close => "close"
  | .call (.closeWith _) => "close_with"
  | .isOpen => "is_open"
  | .outline => "debug"
  | .release => "drop"

/-- A value, or the failure to get one. -/
def ofExcept {α : Type} (write : α → Json) : Except Fault α → Json
  | .ok value => write value
  | .error cause => cause.report

def ofBytes (b : Bytes) : Json :=
  match Bytes.toText? b with
  | some s => .string s
  | none => .object [("hex", .string b.toHex)]

/-- Replaces the date of an encoded cookie. -/
def maskDate (value : List Char) : List Char :=
  match value with
  | [] => []
  | c :: rest =>
    if "; Expires=".toList.isPrefixOf (c :: rest) then
      "; Expires=<date>".toList ++ ((c :: rest).drop 10).dropWhile (· != ';')
    else c :: maskDate rest

def maskText (s : String) : String := String.ofList (maskDate s.toList)

def headerValue (name : HeaderName) (value : HeaderValue) : Json :=
  match Bytes.toText? value.bytes with
  | some s => .string (if name.text == "set-cookie" then maskText s else s)
  | none => ofBytes value.bytes

def ofHeaderMap (map : HeaderMap) : Json :=
  .array (map.fields.map fun (name, value) => .array [.string name.text, headerValue name value])

def ofHeaders (headers : Headers) : Json :=
  .array (headers.entries.map fun (name, values) => .array [.string name, .texts values])

def ofChunk : Except Fault Bytes → Json := ofExcept ofBytes

def ofChunks (chunks : Chunks) : Json := .array (chunks.map ofChunk)

def ofHead (head : Head) : Json :=
  .object [("status", .nat head.status.code), ("headers", ofHeaderMap head.headers)]

def ofReply (reply : Reply Body) : Json :=
  .object [("status", .nat reply.status.code), ("headers", ofHeaderMap reply.headers),
    ("body", ofChunk reply.body.collect)]

def ofReplyResult : Except Fault (Reply Body) → Json := ofExcept ofReply

def ofCookie (cookie : Cookie) : Json := .texts [cookie.name, cookie.value]

def ofSetCookie (cookie : SetCookie) : Json :=
  .array [.string cookie.name, .string cookie.value, .option .string cookie.domain,
    .option .string cookie.path,
    (match cookie.lifetime with
      | .session => .string "session"
      | .seconds n => .nat n),
    .bool cookie.httpOnly, .bool cookie.secure]

def ofAddress (address : Option SocketAddress) : Json := .option (fun a => .string a.text) address

def ofContext (context : Context) : Json :=
  .object [("id", .string context.requestId), ("remote", ofAddress context.remote),
    ("local", ofAddress context.accepted), ("secure", .bool context.isSecure),
    ("peer_certs", .option (fun s => .bool s.hasPeerCertificates) context.session),
    ("metadata", .object context.metadata)]

def ofNote (note : Note) : Json := .array (.string note.topic :: note.details)

def ofNotes (notes : List Note) : Json := .array (notes.map ofNote)

def ofCall : Writer.Call → Json
  | .head head => .object [("head", .nat head.status.code), ("headers", ofHeaderMap head.headers)]
  | .data b => .object [("data", ofBytes b)]
  | .close => .string "close"
  | .closeWith cause => .object [("close_with", cause.report)]

def ofReading : Pipe.Reading → Json
  | .chunk b => .object [("chunk", ofBytes b)]
  | .fault cause => cause.report
  | .finish => .string "end"
  | .pending => .string "pending"

def ofReport (report : Relay.Report) : Json :=
  .array [.string (orderName report.1), match report.2 with
    | .returned result => Scripted.outcome result
    | .open isOpen => .bool isOpen
    | .outlined text => .string text
    | .released => .null]

mutual

def ofValue : Value → Json
  | .unit => .array [.string "unit"]
  | .text s => .array [.string "string", .string s]
  | .literal s => .array [.string "str", .string s]
  | .bytes b => .array [.string "bytes", ofBytes b]
  | .octets b => .array [.string "vec_u8", ofBytes b]
  | .json value => .array [.string "json", value]
  | .jsonList values => .array [.string "vec_json", .array values]
  | .list values => .array [.string "list", .array (ofValues values)]
  | .reply _ => .array [.string "response"]
  | .observable _ => .array [.string "observable"]
  | .natural n => .array [.string "u64", .nat n]
  | .real => .array [.string "f64"]
  | .boxed _ => .array [.string "boxed"]
  | .foreign => .array [.string "other"]

def ofValues : List Value → List Json
  | [] => []
  | v :: rest => ofValue v :: ofValues rest

end

def ofSignal : Signal → Json
  | .next item => .object [("next", ofValue item)]
  | .failed cause => cause.report
  | .completed => .string "completed"

def ofSpan (span : Span) : Json :=
  .object ([("span", .string "http.server"), ("name", .string span.name), ("service", .string span.service),
    ("path", .string span.path)] ++ (span.status.map fun s => ("status", Json.nat s.code)).toList)

def ofMark : Mark → Json
  | .received => .object [("annotation", .string "sr"), ("message", .string "Request received")]
  | .sent => .object [("annotation", .string "ss"), ("message", .string "Response sent")]

def ofTrace (trace : Trace) : Json :=
  .object [("spans", .array (trace.spans.map ofSpan)), ("events", .array (trace.marks.map ofMark))]

def ofLogValue : LogValue → Json
  | .flag b => .bool b
  | .nat n => .nat n
  | .shown text | .quoted text => .string text

def ofLogLine (line : LogLine) : Json :=
  .array [.string line.level.text, .string line.message,
    .object (line.fields.map fun (name, value) => (name, ofLogValue value))]

/-- Encoded content, by its length, its first bytes and its last ones. -/
def ofBlob (content : Bytes) : Json :=
  .array [.nat content.length, .string (Bytes.toHex (content.take 8)),
    .string (Bytes.toHex (content.drop (content.length - 4)))]

def ofKey (key : PrivateKey) : Json := .array [.string key.form.name, ofBlob key.der]

def ofCertificates (certificates : List Bytes) : Json := .array (certificates.map ofBlob)

def ofIdentity : Identity → Json
  | .loaded certificates key =>
    .object [("self_signed", .bool false), ("certificates", ofCertificates certificates), ("key", ofKey key)]
  | .selfSigned _ => .object [("self_signed", .bool true), ("count", .nat 1)]

def ofAcceptor (acceptor : TlsAcceptor) : Json :=
  .object [("self_signed", .bool acceptor.isSelfSigned), ("debug", .string acceptor.outline.render)]

def ofSession (session : Session) : Json :=
  .object [("protocol", .option .string session.protocol), ("cipher_suite", .option .string session.cipherSuite),
    ("alpn", .option .string session.alpnProtocol), ("server_name", .option .string session.serverName),
    ("peer_certificates", .nat session.peerCertificates.length),
    ("has_peer_certificates", .bool session.hasPeerCertificates)]

def ofNotice : ShutdownNotice → Json
  | .signal => .string "signal"
  | .empty => .string "empty"
  | .closed => .string "closed"
  | .lagged missed => .object [("lagged", .nat missed)]

/-- The state of a server. The number of a bound port depends on the system and is masked. -/
def ofServer (server : Server) : Json :=
  .array [.string server.phase.name,
    (if server.address.isSome then .string "bound" else .nat server.port),
    .option (fun address => .string address.ip.text) server.address,
    .nat server.inFlight, .bool server.signal.isTriggered]

/-- A server before its start. -/
def ofNewServer (server : Server) : Json :=
  .object [("port", .nat server.port), ("secure", .bool server.isSecure),
    ("local", ofAddress server.address), ("in_flight", .nat server.inFlight)]

end Sluice.Scenario
