import Sluice.Cookie.Jar
import Sluice.Cookie.SetCookie
import Sluice.Exchange.Writer
import Sluice.Headers

/-! The response that a handler fills in and writes. Status, headers and cookies can change until the head is
committed; the head goes out before any data; completion is final. Every operation is a program over the
writer, so it holds for any writer, whatever it answers. -/

set_option autoImplicit false

namespace Sluice

inductive Phase where
  | initial
  | committed
  | complete
  deriving DecidableEq, Repr

def Phase.text : Phase → String
  | .initial => "Init"
  | .committed => "HeaderSent"
  | .complete => "Complete"

structure Outbound where
  phase : Phase
  status : Option Status
  headers : Headers
  cookies : CookieMap SetCookie

namespace Outbound

def fresh : Outbound := ⟨.initial, none, Headers.empty, CookieMap.empty⟩

def isCommitted (response : Outbound) : Bool := response.phase != .initial

/-- Sets the status unless the head is committed; the flag tells whether it was set. -/
def setStatus (response : Outbound) (status : Status) : Bool × Outbound :=
  if response.isCommitted then (false, response) else (true, { response with status := some status })

/-- Changes the headers unless the head is committed. -/
def editHeaders (response : Outbound) (edit : Headers → Headers) : Except Fault Unit × Outbound :=
  if response.isCommitted then (.error .headersCommitted, response)
  else (.ok (), { response with headers := edit response.headers })

/-- Queues a cookie unless the head is committed. -/
def addCookie (response : Outbound) (cookie : SetCookie) : Except Fault Unit × Outbound :=
  if response.isCommitted then (.error .headersCommitted, response)
  else (.ok (), { response with cookies := response.cookies.add cookie.name cookie })

/-- Adds the queued cookies to the fields of a head. -/
def appendCookies (now : Instant) (map : HeaderMap) : List SetCookie → Except Fault HeaderMap
  | [] => .ok map
  | cookie :: rest => do
    let encoded ← cookie.encode now
    match HeaderValue.ofText? encoded with
    | none => .error (.cookieEncoding cookie.name PartFault.headerValue.message)
    | some value => appendCookies now (map.append .setCookie value) rest

/-- The head as it would be sent at a given time. The status is 200 unless one is set. -/
def head (response : Outbound) (now : Instant) : Except Fault Head := do
  let map ← response.headers.toHeaderMap
  let map ← appendCookies now map response.cookies.values
  return ⟨response.status.getD .ok, map⟩

/-- Commits the head, once; a head that cannot be encoded leaves everything as it was. -/
def sendHeaders (response : Outbound) : Writing (Except Fault Unit × Outbound) :=
  match response.phase with
  | .committed => .done (.ok (), response)
  | .complete => .done (.error .responseComplete, response)
  | .initial => .ask .now fun now =>
    match response.head now with
    | .error fault => .done (.error fault, response)
    | .ok head => .ask (.call (.head head)) fun
      | .ok () => .done (.ok (), { response with phase := .committed })
      -- a writer that refuses the head takes nothing after it
      | .error fault => .done (.error fault, { response with phase := .complete })

def writeData (response : Outbound) (bytes : Bytes) : Writing (Except Fault Unit × Outbound) :=
  response.sendHeaders.bind fun
    | (.error fault, response) => .done (.error fault, response)
    | (.ok (), response) => .ask (.call (.data bytes)) fun
      | .ok () => .done (.ok (), response)
      | .error fault => .done (.error fault, { response with phase := .complete })

/-- Ends the response, once. With a cause the writer is aborted; without one the head is sent if it was not yet
and the writer is closed. A writer that is no longer open is not called. -/
def setComplete (response : Outbound) (cause : Option Fault) : Writing Outbound :=
  let completed := { response with phase := .complete }
  match response.phase with
  | .complete => .done response
  | _ => .ask .isOpen fun
    | false => .done completed
    | true =>
      match cause with
      | some fault => .ask (.call (.closeWith fault)) fun _ => .done completed
      | none => response.sendHeaders.bind fun
        | (.ok (), sent) => .ask (.call .close) fun _ => .done { sent with phase := .complete }
        | (.error fault, sent) =>
          -- a head that could not be built was never sent, so the writer still takes an abort
          match sent.phase with
          | .initial => .ask (.call (.closeWith fault)) fun _ => .done { sent with phase := .complete }
          | _ => .done { sent with phase := .complete }

/-- Sends the chunks of a stream. A failure in the stream aborts the response with its status. -/
def forwardChunks (response : Outbound) : Chunks → Writing (Except Fault Unit × Outbound)
  | [] => .done (.ok (), response)
  | .ok bytes :: rest =>
    (response.writeData bytes).bind fun
      | (.ok (), response) => response.forwardChunks rest
      | (.error fault, response) => .done (.error fault, response)
  | .error fault :: _ =>
    (response.setComplete (some (.status fault.statusCode))).bind fun response =>
      .done (.error fault, response)

def forward (response : Outbound) (body : Chunks) : Writing (Except Fault Unit × Outbound) :=
  match response.phase with
  | .complete => .done (.error .responseComplete, response)
  | _ => response.forwardChunks body

/-- Completes the response if what came before went well. -/
def finishAfter : Except Fault Unit × Outbound → Writing (Except Fault Unit × Outbound)
  | (.error fault, response) => .done (.error fault, response)
  | (.ok (), response) => (response.setComplete none).bind fun response => .done (.ok (), response)

def writeWith (response : Outbound) (body : Chunks) : Writing (Except Fault Unit × Outbound) :=
  (response.forward body).bind finishAfter

def forwardAll (response : Outbound) : List Chunks → Writing (Except Fault Unit × Outbound)
  | [] => .done (.ok (), response)
  | body :: rest =>
    (response.forward body).bind fun
      | (.ok (), response) => response.forwardAll rest
      | (.error fault, response) => .done (.error fault, response)

/-- Writes streams one after another and completes the response once. -/
def writeAndFlushWith (response : Outbound) (bodies : List Chunks) :
    Writing (Except Fault Unit × Outbound) :=
  (response.forwardAll bodies).bind finishAfter

def outline (response : Outbound) : Text.Outline :=
  .record "ServerHttpResponse" [
    ("state", .atom response.phase.text),
    ("status", .option (fun s => .nat s.code) response.status),
    ("headers", response.headers.outline),
    ("cookies", .nat response.cookies.size)] true

end Outbound

end Sluice
