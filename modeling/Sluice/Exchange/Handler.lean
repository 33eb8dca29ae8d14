import Sluice.Exchange.Inbound
import Sluice.Exchange.Outbound

/-! Handlers and their adapter. A handler is a program over the operations of a response; it sees the response
only through them. The adapter refuses malformed targets, runs the handler and completes the response. -/

set_option autoImplicit false

namespace Sluice

namespace Handler

inductive Ask where
  | look
  | setStatus (status : Status)
  | editHeaders (edit : Headers → Headers)
  | addCookie (cookie : SetCookie)
  | sendHeaders
  | writeWith (body : Chunks)
  | writeAndFlushWith (bodies : List Chunks)
  | setComplete (cause : Option Fault)
  | note (line : Note)

@[reducible] def Answer : Ask → Type
  | .look => Outbound
  | .setStatus _ => Bool
  | .setComplete _ => Unit
  | .note _ => Unit
  | _ => Except Fault Unit

@[reducible] def interface : Interface := ⟨Ask, Answer⟩

/-- A handler as the adapter holds it shows nothing of itself. -/
def outline : Text.Outline := .record "HttpHandlerAdapter" [] true

def perform : (question : Ask) → Outbound → Writing (Answer question × Outbound)
  | .look, response => .done (response, response)
  | .setStatus status, response => .done (response.setStatus status)
  | .editHeaders edit, response => .done (response.editHeaders edit)
  | .addCookie cookie, response => .done (response.addCookie cookie)
  | .sendHeaders, response => response.sendHeaders
  | .writeWith body, response => response.writeWith body
  | .writeAndFlushWith bodies, response => response.writeAndFlushWith bodies
  | .setComplete cause, response =>
    (response.setComplete cause).bind fun response => .done ((), response)
  | .note line, response => .ask (.note line) fun _ => .done ((), response)

end Handler

/-- A program over a response. -/
abbrev Script := Program Handler.interface

abbrev Handler := Inbound → Script (Except Fault Unit)

namespace Script

def look : Script Outbound := Program.send (I := Handler.interface) .look

def setStatus (status : Status) : Script Bool :=
  Program.send (I := Handler.interface) (.setStatus status)

def editHeaders (edit : Headers → Headers) : Script (Except Fault Unit) :=
  Program.send (I := Handler.interface) (.editHeaders edit)

def addCookie (cookie : SetCookie) : Script (Except Fault Unit) :=
  Program.send (I := Handler.interface) (.addCookie cookie)

def sendHeaders : Script (Except Fault Unit) := Program.send (I := Handler.interface) .sendHeaders

def writeWith (body : Chunks) : Script (Except Fault Unit) :=
  Program.send (I := Handler.interface) (.writeWith body)

def writeAndFlushWith (bodies : List Chunks) : Script (Except Fault Unit) :=
  Program.send (I := Handler.interface) (.writeAndFlushWith bodies)

def setComplete (cause : Option Fault) : Script Unit :=
  Program.send (I := Handler.interface) (.setComplete cause)

def note (line : Note) : Script Unit := Program.send (I := Handler.interface) (.note line)

def onResponse {α : Type} (script : Script α) (response : Outbound) : Writing (α × Outbound) :=
  Program.interpret (I := Handler.interface) Handler.perform script response

end Script

namespace Handler

/-- Completes a response with the outcome of its handler. -/
def conclude : Except Fault Unit × Outbound → Writing Unit
  | (.ok (), response) => (response.setComplete none).bind fun _ => .done ()
  | (.error fault, response) => (response.setComplete (some fault)).bind fun _ => .done ()

/-- Answers a request that cannot be adapted. -/
def refuse : Writing Unit :=
  .ask (.call (.head ⟨.badRequest, HeaderMap.empty⟩)) fun
    | .ok () => .ask (.call .close) fun _ => .done ()
    | .error _ => .done ()

/-- Answers one request: adapts it, runs the handler and completes the response. -/
def serve (handler : Handler) (context : Context) (request : Request) : Writing Unit :=
  match Inbound.ofRequest context request with
  | .error _ => refuse
  | .ok inbound => (Script.onResponse (handler inbound) Outbound.fresh).bind conclude

/-- Sends the request body back under the content type of the request. -/
def echo : Handler := fun request => do
  let body := request.takeBody.1
  match request.headers.getFirst? "content-type" with
  | none => Script.writeWith body
  | some contentType =>
    match ← Script.editHeaders (·.set "content-type" contentType) with
    | .error fault => return .error fault
    | .ok () => Script.writeWith body

def failure : Handler := fun _ => return .error (.status .badRequest)

def chunked (chunks : List Bytes) : Handler := fun _ => Script.writeWith (chunks.map .ok)

end Handler

end Sluice
