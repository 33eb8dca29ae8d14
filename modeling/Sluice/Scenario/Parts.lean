import Sluice.Cookie.SetCookie
import Sluice.Http.Message
import Sluice.Json.Access

/-! Descriptions of the parts of a scenario as JSON: bytes, failures, headers, bodies, requests and contexts. What a
description leaves out has a default. -/

set_option autoImplicit false

namespace Sluice.Scenario

def hexBytes : List Char → Bytes
  | a :: b :: rest =>
    Utf8.byte (16 * (Ascii.hexValue? a).getD 0 + (Ascii.hexValue? b).getD 0) :: hexBytes rest
  | _ => []

def bytes (json : Json) : Bytes :=
  match json with
  | .string s => Bytes.ofText s
  | .object _ => hexBytes (json.str "hex").toList
  | _ => []

def pairs (json : Json) : List (String × Bytes) :=
  json.asList.filterMap fun
    | .array [name, value] => some (name.asText, bytes value)
    | _ => none

def device : String → Device
  | "BrokenPipe" => .brokenPipe
  | "ConnectionReset" => .connectionReset
  | "ConnectionAborted" => .connectionAborted
  | "NotConnected" => .notConnected
  | "ConnectionRefused" => .connectionRefused
  | "NotFound" => .notFound
  | "TimedOut" => .timedOut
  | "UnexpectedEof" => .unexpectedEnd
  | _ => .other

def partFault : String → PartFault
  | "header_name" => .headerName
  | "header_value" => .headerValue
  | "status" => .statusCode
  | "method" => .method
  | _ => .uri .empty

def fault (spec : Json) : Fault :=
  let message := spec.str "message"
  match spec.str "kind" with
  | "Http" => .engine (spec.str "of" == "canceled")
  | "MalformedTarget" => .malformedTarget (spec.str "target") (spec.str "reason")
  | "InvalidHeader" => .invalidHeader message
  | "CookieEncoding" => .cookieEncoding (spec.str "name") (spec.str "reason")
  | "HeadersCommitted" => .headersCommitted
  | "ResponseComplete" => .responseComplete
  | "ConnectionClosed" => .connectionClosed
  | "Status" =>
    match Status.ofCode? (spec.natOr "status" 0) with
    | some status => .status status
    | none => .part .statusCode
  | "Config" => .config message
  | "Tls" => .tls message
  | "NotImplemented" => .notImplemented message
  | "UnhandledResult" => .unhandledResult message
  | "Runtime" => .runtime message
  | "Io" => .device (device (spec.str "io")) message
  | "HttpError" => .part (partFault (spec.str "of"))
  | "Serialization" => .serialization message
  | _ => .internal message

def fault? (spec : Json) : Option Fault := if spec.isNull then none else some (fault spec)

def headerMap (json : Json) : Except Fault HeaderMap :=
  match HeaderMap.ofFields (pairs json) with
  | .ok map => .ok map
  | .error cause => .error (.part cause)

def frame (spec : Json) : Frame :=
  match spec.field? "error", spec.field? "trailers" with
  | some cause, _ => .fault (fault cause)
  | none, some fields => .trailers ((headerMap fields).toOption.getD HeaderMap.empty)
  | none, none => .data (bytes spec)

def body (spec : Json) : Body :=
  match spec with
  | .null => []
  | .array frames => frames.map frame
  | other => Body.full (bytes other)

def chunks (spec : Json) : Chunks := (Scenario.body spec).chunks

def replySpec (spec : Json) : Reply Body :=
  let reply := match Status.ofCode? (spec.natOr "status" 200) with
    | some status => Reply.build status none (pairs (spec.get "headers")) (body (spec.get "body"))
    | none => .error (.part .statusCode)
  match reply with
  | .ok reply => reply
  | .error cause => ⟨cause.statusCode, HeaderMap.empty, []⟩

def request (spec : Json) : Except Fault Request :=
  Request.build (spec.strOr "method" "GET") (spec.strOr "uri" "/")
    (spec.strOr "version" "HTTP/1.1") (pairs (spec.get "headers")) (body (spec.get "body"))

def session (spec : Json) : Session := {
  protocol := spec.str? "protocol"
  cipherSuite := spec.str? "cipher_suite"
  alpnProtocol := spec.str? "alpn_protocol"
  serverName := spec.str? "server_name"
  peerCertificates := (spec.list "peer_certificates").map bytes }

def addresses? (spec : Json) : Option (SocketAddress × SocketAddress) := do
  let remote ← SocketAddress.ofText? (spec.str "remote")
  let accepted ← SocketAddress.ofText? (spec.str "local")
  return (remote, accepted)

def context (spec : Json) : Context :=
  let context := Context.ofId (spec.strOr "id" "req")
  let context := match addresses? spec with
    | some (remote, accepted) => context.withAddresses remote accepted
    | none => context
  let context := match spec.get "tls" with
    | .null => context
    | tls => context.withSession (session tls)
  { context with rpcMethod := spec.str? "rpc_method" }

def setCookie (spec : Json) : SetCookie := {
  name := spec.str "name"
  value := spec.str "value"
  domain := spec.str? "domain"
  path := spec.str? "path"
  lifetime := match spec.nat? "max_age" with
    | some n => .seconds n
    | none => .session
  httpOnly := spec.flag "http_only"
  secure := spec.flag "secure" }

end Sluice.Scenario
